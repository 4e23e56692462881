-- Checked settings and the engines they make. Settings that pass their check, from a record or
-- from the environment, have a threshold from 0 to 1, a capacity of at least one and positive
-- times for the status line. Such a threshold always makes a gate, and the capacity makes a
-- history, hence an engine, exactly when it is no larger than the largest size a buffer may have.
-- The check sets no such upper bound, so a larger capacity passes it and still makes no engine.
import VoiceCalc.Engine
import VoiceCalc.Proofs.Chunks
import VoiceCalc.Proofs.HistoryBuffer

namespace VoiceCalc

/-! ## Checks that only add issues -/

namespace Checks

variable {α β : Type}

/-- A check that only adds issues after those found before it. Every field check is one, and so
is every sequence of them, so a record check that ends with no issue passed each of its fields. -/
class OnlyAdds (c : Checks α) : Prop where
  prefix_run : ∀ is, is <+: (c.run is).2

instance (a : α) : OnlyAdds (pure a : Checks α) := ⟨fun is => List.prefix_refl is⟩

instance {c : Checks α} {f : α → Checks β} [hc : OnlyAdds c] [hf : ∀ a, OnlyAdds (f a)] :
    OnlyAdds (c >>= f) :=
  ⟨fun is => (hc.prefix_run is).trans ((hf _).prefix_run _)⟩

instance [Inhabited α] (d : Datum) (name : String) (preset : Option α)
    (conv : Datum → Except Refusal α) : OnlyAdds (Checks.field d name preset conv) := by
  refine ⟨fun is => ?_⟩
  unfold Checks.field
  split
  · exact List.prefix_refl is
  · exact List.prefix_append is _
  · split
    · exact List.prefix_refl is
    · exact List.prefix_append is _

/-- A check finishes with a value exactly when its run from no issue ends with none. -/
theorem finish_eq_ok {c : Checks α} {v : α} : Checks.finish c = .ok v ↔ c.run [] = (v, []) := by
  unfold Checks.finish
  rcases hc : c.run [] with ⟨w, _ | ⟨i, is⟩⟩
  · simp only [List.isEmpty_nil, if_true, Except.ok.injEq]
    exact ⟨fun h => h ▸ rfl, fun h => congrArg Prod.fst h⟩
  · simp only [List.isEmpty_cons, Bool.false_eq_true, if_false, reduceCtorEq, false_iff]
    exact fun h => List.cons_ne_nil i is (congrArg Prod.snd h)

/-- A sequence of checks that ends with no issue found none in its first part, since the rest
only adds issues. -/
theorem run_bind_eq_nil {c : Checks α} {f : α → Checks β} {b : β} [hf : ∀ a, OnlyAdds (f a)]
    (h : (c >>= f).run [] = (b, [])) : ∃ a, c.run [] = (a, []) ∧ (f a).run [] = (b, []) := by
  have hrun : (c >>= f).run [] = (f (c.run []).1).run (c.run []).2 := rfl
  have hnil : (c.run []).2 = [] := by
    have hpre := (hf (c.run []).1).prefix_run (c.run []).2
    rw [← hrun, h] at hpre
    exact List.prefix_nil.1 hpre
  refine ⟨(c.run []).1, Prod.ext rfl hnil, ?_⟩
  rw [hrun, hnil] at h
  exact h

/-- A field check that adds no issue took the preset of an absent field, or converted the field. -/
theorem field_run_eq_nil [Inhabited α] {d : Datum} {name : String} {preset : Option α}
    {conv : Datum → Except Refusal α} {v : α} (h : (Checks.field d name preset conv).run [] = (v, [])) :
    (d.field? name = none ∧ preset = some v) ∨ ∃ x, d.field? name = some x ∧ conv x = .ok v := by
  unfold Checks.field at h
  split at h
  · next hd => exact .inl ⟨hd, congrArg some (congrArg Prod.fst h)⟩
  · exact absurd (congrArg Prod.snd h) (List.cons_ne_nil _ _)
  · rename_i x hd
    split at h
    · next w hw =>
      have hwv : w = v := congrArg Prod.fst h
      exact .inr ⟨x, hd, hwv ▸ hw⟩
    · exact absurd (congrArg Prod.snd h) (List.cons_ne_nil _ _)

end Checks

/-! ## Bounds -/

section Bounds

theorem above_zero_pos {r : Except Refusal Float} {v : Float} (h : (r >>= above 0) = .ok v) :
    0.0 < v := by
  obtain ⟨y, -, h⟩ := except_bind_eq_ok.1 h
  obtain ⟨hgt, rfl⟩ := ok_of_ite_eq_ok h
  rw [← Float.ofNat_zero_eq]
  exact hgt

/-- A whole number that passes the check of a least value is at least that value. -/
theorem wholeAtLeast_le {r : Except Refusal Int} {b n : Int} (h : (r >>= wholeAtLeast b) = .ok n) :
    b ≤ n := by
  obtain ⟨m, -, h⟩ := except_bind_eq_ok.1 h
  obtain ⟨hge, rfl⟩ := ok_of_ite_eq_ok h
  exact hge

end Bounds

/-! ## Valid settings -/

/-- Settings as their check admits them: a threshold from 0 to 1, a capacity of at least one and
positive times for errors and outcomes on the status line. -/
structure Settings.Valid (s : Settings) : Prop where
  threshold : 0.0 ≤ s.threshold ∧ s.threshold ≤ 1.0
  capacity : 1 ≤ s.capacity
  errorSeconds : 0.0 < s.errorSeconds
  resetSeconds : 0.0 < s.resetSeconds

namespace Settings

variable {s : Settings}

theorem valid_standard : Settings.standard.Valid where
  threshold := ⟨by decide, by decide⟩
  capacity := by decide
  errorSeconds := by decide
  resetSeconds := by decide

/-- Settings that pass the check of a record are valid: each field is absent and keeps its
standard value, or passes its conversion and bound. -/
theorem check_valid {d : Datum} (h : Settings.check d = .ok s) : s.Valid := by
  have hr := Checks.finish_eq_ok.1 h
  dsimp only at hr
  obtain ⟨t, ht, hr⟩ := Checks.run_bind_eq_nil hr
  obtain ⟨n, hn, hr⟩ := Checks.run_bind_eq_nil hr
  obtain ⟨e, he, hr⟩ := Checks.run_bind_eq_nil hr
  obtain ⟨r, hr', hr⟩ := Checks.run_bind_eq_nil hr
  obtain ⟨l, -, hr⟩ := Checks.run_bind_eq_nil hr
  obtain ⟨a, -, hr⟩ := Checks.run_bind_eq_nil hr
  have hth : 0.0 ≤ t ∧ t ≤ 1.0 := by
    rcases Checks.field_run_eq_nil ht with ⟨-, ⟨⟩⟩ | ⟨_, -, hx⟩
    · exact valid_standard.threshold
    · exact toFraction_bounds hx
  have hcap : 1 ≤ n := by
    rcases Checks.field_run_eq_nil hn with ⟨-, ⟨⟩⟩ | ⟨_, -, hx⟩
    · exact valid_standard.capacity
    · exact wholeAtLeast_le hx
  have herr : 0.0 < e := by
    rcases Checks.field_run_eq_nil he with ⟨-, ⟨⟩⟩ | ⟨_, -, hx⟩
    · exact valid_standard.errorSeconds
    · exact above_zero_pos hx
  have hreset : 0.0 < r := by
    rcases Checks.field_run_eq_nil hr' with ⟨-, ⟨⟩⟩ | ⟨_, -, hx⟩
    · exact valid_standard.resetSeconds
    · exact above_zero_pos hx
  cases congrArg Prod.fst hr
  exact ⟨hth, hcap, herr, hreset⟩

/-- Settings from the environment are the settings of a record checked like any other. -/
theorem fromEnv_checked {env : String → Option String} (h : Settings.fromEnv env = .ok s) :
    ∃ d, Settings.check d = .ok s := by
  unfold Settings.fromEnv at h
  dsimp only at h
  split at h
  · next hs => exact ⟨_, (Except.ok.inj h) ▸ hs⟩
  · cases h

end Settings

/-! ## Making an engine -/

theorem Gate.make_eq_ok_iff {t : Float} : Gate.make t = .ok ⟨t⟩ ↔ 0.0 ≤ t ∧ t ≤ 1.0 := by
  unfold Gate.make
  split
  · next h => simpa only [Bool.and_eq_true, decide_eq_true_eq, true_iff] using h
  · next h => simpa only [Bool.and_eq_true, decide_eq_true_eq, reduceCtorEq, false_iff] using h

namespace Engine

variable {s : Settings} {calculator : Calculator} {rec : Option Recognizer} {speaker : Option Speaker}

/-- Settings whose threshold makes a gate and whose capacity fits a history make an engine, with
that gate and an empty history of that capacity. -/
theorem make_of_fits (ht : 0.0 ≤ s.threshold ∧ s.threshold ≤ 1.0) (h1 : 1 ≤ s.capacity)
    (h2 : s.capacity ≤ History.largest) :
    ∃ e, Engine.make s calculator rec speaker = .ok e ∧ e.gate = ⟨s.threshold⟩ ∧
      e.history.capacity = s.capacity.toNat ∧ e.history.entries = [] := by
  have hh : ∃ h : History Entry, History.make s.capacity = .ok h ∧ h.capacity = s.capacity.toNat ∧
      h.entries = [] := History.make_of_le h1 h2
  obtain ⟨h, hm, hc, he⟩ := hh
  exact ⟨_, by rw [Engine.make, Gate.make_eq_ok_iff.2 ht, hm]; rfl, rfl, hc, he⟩

/-- Settings whose threshold makes a gate and whose capacity is beyond the largest size make no
engine. -/
theorem make_of_largest_lt (ht : 0.0 ≤ s.threshold ∧ s.threshold ≤ 1.0) (h : History.largest < s.capacity) :
    Engine.make s calculator rec speaker = .error (.capacity .beyondLargest) := by
  rw [Engine.make, Gate.make_eq_ok_iff.2 ht, History.make_of_largest_lt h]
  rfl

end Engine

/-- Settings that pass their check, from a record or from the environment, always have a threshold
that makes a gate. They make an engine, with that gate and an empty history of their capacity,
whenever the capacity is no larger than the largest size a buffer may have; a larger capacity,
which the check lets through, makes no engine. -/
theorem checked_settings_make_engines_up_to_largest_capacity {s : Settings}
    (hs : (∃ d, Settings.check d = .ok s) ∨ ∃ env, Settings.fromEnv env = .ok s)
    (calculator : Calculator) (rec : Option Recognizer) (speaker : Option Speaker) :
    Gate.make s.threshold = .ok ⟨s.threshold⟩ ∧
    (s.capacity ≤ History.largest → ∃ e, Engine.make s calculator rec speaker = .ok e ∧
      e.gate = ⟨s.threshold⟩ ∧ e.history.capacity = s.capacity.toNat ∧ e.history.entries = []) ∧
    (History.largest < s.capacity →
      Engine.make s calculator rec speaker = .error (.capacity .beyondLargest)) := by
  have hv : s.Valid := by
    obtain ⟨d, hd⟩ := hs.elim id fun ⟨_, he⟩ => Settings.fromEnv_checked he
    exact Settings.check_valid hd
  exact ⟨Gate.make_eq_ok_iff.2 hv.threshold, Engine.make_of_fits hv.threshold hv.capacity,
    Engine.make_of_largest_lt hv.threshold⟩

/-- The largest capacity, as the environment writes it, makes an engine. -/
theorem largest_capacity_from_environment_makes_an_engine :
    let s : Settings := ⟨Gate.standardThreshold, 9223372036854775807, 2.0, 3.0, "en-US", false⟩
    ((∃ d, Settings.check d = .ok s) ∨ ∃ env, Settings.fromEnv env = .ok s) ∧
    Gate.make s.threshold = .ok ⟨s.threshold⟩ ∧
    (s.capacity ≤ History.largest → ∃ e, Engine.make s ⟨CalcState.fresh, allControls⟩ none none = .ok e ∧
      e.gate = ⟨s.threshold⟩ ∧ e.history.capacity = s.capacity.toNat ∧ e.history.entries = []) ∧
    (History.largest < s.capacity →
      Engine.make s ⟨CalcState.fresh, allControls⟩ none none = .error (.capacity .beyondLargest)) :=
  have hs := Or.inr ⟨_, (rfl : Settings.fromEnv (fun var =>
    [("VOICE_HISTORY_CAPACITY", "9223372036854775807")].lookup var) = .ok _)⟩
  ⟨hs, checked_settings_make_engines_up_to_largest_capacity hs _ _ _⟩

/-- A capacity of two to the 63, as the environment writes it, passes the check of the settings and
still makes no engine. -/
theorem capacity_beyond_largest_from_environment_makes_no_engine :
    ∃ s, Settings.fromEnv (fun var => [("VOICE_HISTORY_CAPACITY", "9223372036854775808")].lookup var) =
      .ok s ∧ Engine.make s ⟨CalcState.fresh, allControls⟩ none none = .error (.capacity .beyondLargest) :=
  ⟨_, rfl, Engine.make_of_largest_lt (by decide) (by decide)⟩

end VoiceCalc
