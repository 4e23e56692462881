-- The values of the commands read from a sentence: a level from 1 to 9, up to 9 copies, up to 20
-- scouted, up to 8 on the bench, from 1 to 99 refreshes, a step of one level, a word for a rarity
-- or a stage, a switch position, or nothing. Applying such commands never fails to convert a
-- value, and keeps every bound that the calculator's inputs declare.
import VoiceCalc.Dispatch
import VoiceCalc.Transcript
import VoiceCalc.Proofs.Chunks

namespace VoiceCalc

open Vocabulary

/-! ## The values a sentence gives -/

/-- The command carries a value its input takes from a sentence: the level and the numeric inputs
a whole number in their ranges, a step of one level up or down, a word for the rarity and the
stage, a position for the switches, and nothing for the question and the reset. -/
def Command.InRange (c : Command) : Prop :=
  match c.kind, c.value with
  | .level, .number n => 1 ≤ n ∧ n ≤ 9
  | .levelStep, .number n => n = 1 ∨ n = -1
  | .copies, .number n => 0 ≤ n ∧ n ≤ 9
  | .scouting, .number n => 0 ≤ n ∧ n ≤ 20
  | .bench, .number n => 0 ≤ n ∧ n ≤ 8
  | .refreshes, .number n => 1 ≤ n ∧ n ≤ 99
  | .rarity, .word _ | .evolution, .word _ => True
  | .ditto, .switch _ | .pve, .switch _ => True
  | .query, .none | .reset, .none => True
  | _, _ => False

/-- A chunk asks only for values in range: the fields' ranges are those of the vocabulary, and
the fixed phrases step by one level. -/
theorem Licenses.inRange {ts : List String} {ps : List Nat} {c : Command} (h : Licenses ts ps c) :
    c.InRange := by
  cases h with
  | switch ht =>
    simp only [toggles, List.mem_cons, List.not_mem_nil, or_false] at ht
    rcases ht with rfl | rfl <;> trivial
  | flag hf => simp only [flags, List.mem_singleton] at hf; subst hf; trivial
  | flagWith hf => simp only [flags, List.mem_singleton] at hf; subst hf; trivial
  | question hq =>
    simp only [questions, List.mem_cons, List.not_mem_nil, or_false] at hq
    rcases hq with rfl | rfl <;> trivial
  | field hf _ _ _ hlo hhi =>
    simp only [fields, List.mem_cons, List.not_mem_nil, or_false] at hf
    rcases hf with rfl | rfl | rfl | rfl | rfl <;>
      simp only [Command.InRange] at hlo hhi ⊢ <;> omega
  | rarity => trivial
  | stage => trivial
  | phrase hp =>
    simp only [phrases, List.mem_cons, List.not_mem_nil, or_false] at hp
    rcases hp with rfl | rfl | rfl | rfl | rfl <;> simp [Command.InRange]
  | keyword hk => simp only [keywords, List.mem_singleton] at hk; subst hk; trivial
  | lone _ hlo hhi => simp only [Command.InRange]; omega

theorem readTokens_inRange {ts : List String} {cs : List Command} (h : readTokens ts = .ok cs) :
    ∀ c ∈ cs, c.InRange := by
  unfold readTokens claimsOf at h
  rcases hr : (Chart.start ts).readAll with x | ch
  · rw [hr] at h; cases h
  · rw [hr] at h
    simp only [Functor.map, Except.map, Except.ok.injEq] at h
    subst h
    have hs := (Chart.soundOn_readAll ⟨rfl, Chart.sound_start ts⟩ hr).2
    intro c hc
    obtain ⟨cl, hcl, rfl⟩ := List.mem_map.mp hc
    exact (hs.licensed cl hcl).inRange

theorem readSentence_inRange {s : String} {cs : List Command} (h : readSentence s = .ok cs) :
    ∀ c ∈ cs, c.InRange := by
  unfold readSentence at h
  rw [except_bind_eq_ok] at h
  obtain ⟨t, -, ht⟩ := h
  cases hr : readTokens (tokenize t) with
  | error x => rw [hr] at ht; cases ht
  | ok cs' =>
    rw [hr] at ht
    cases ht
    exact readTokens_inRange hr

/-- An interpretation at the gate is of its own transcript, and its commands are in range. -/
theorem Gate.interpret_ok {g : Gate} {t : Transcript} {r : Interpretation}
    (h : g.interpret t = .ok r) : r.transcript = t ∧ ∀ c ∈ r.commands, c.InRange := by
  unfold Gate.interpret at h
  split at h
  · cases h
    exact ⟨rfl, by simp⟩
  · rw [except_bind_eq_ok] at h
    obtain ⟨cs, hcs, hr⟩ := h
    split at hr <;> simp only [pure, Except.pure, Except.ok.injEq] at hr <;> subst hr
    · exact ⟨rfl, by simp⟩
    · exact ⟨rfl, readSentence_inRange hcs⟩

/-! ## Inputs within their bounds -/

/-- A percentage from 0 to 100. -/
def Percent.InRange : Percent → Prop
  | .whole n => 0 ≤ n ∧ n ≤ 100
  | .real x => 0 ≤ x ∧ x ≤ 100

/-- The inputs keep the bounds they declare: the level from 1 to 9, no count below zero, at least
one refresh, and each of the odds absent or a percentage. -/
structure CalcState.Valid (s : CalcState) : Prop where
  level : minLevel ≤ s.level ∧ s.level ≤ maxLevel
  copies : 0 ≤ s.copies
  scouting : 0 ≤ s.scouting
  bench : 0 ≤ s.bench
  refreshes : 1 ≤ s.refreshes
  perRefreshOdds : ∀ p, s.perRefreshOdds = some p → p.InRange
  totalOdds : ∀ p, s.totalOdds = some p → p.InRange

theorem CalcState.valid_fresh : CalcState.fresh.Valid where
  level := by decide
  copies := by decide
  scouting := by decide
  bench := by decide
  refreshes := by decide
  perRefreshOdds := fun _ h => by cases h
  totalOdds := fun _ h => by cases h

theorem Calculator.clampLevel_mem (n : Int) :
    minLevel ≤ Calculator.clampLevel n ∧ Calculator.clampLevel n ≤ maxLevel := by
  unfold Calculator.clampLevel minLevel maxLevel
  omega

/-! ## Applying commands -/

section ExceptLemmas

variable {ε ε' α β : Type}

theorem mapError_eq_ok {r : Except ε α} {f : ε → ε'} {a : α} : r.mapError f = .ok a ↔ r = .ok a := by
  cases r <;> simp [Except.mapError]

theorem ok_mapError (a : α) (f : ε → ε') : (Except.ok a : Except ε α).mapError f = .ok a := rfl

theorem error_mapError (x : ε) (f : ε → ε') : (Except.error x : Except ε α).mapError f = .error (f x) :=
  rfl

theorem ok_bind (a : α) (k : α → Except ε β) : (Except.ok a >>= k) = k a := rfl

end ExceptLemmas

namespace Calculator

variable {c c' : Calculator}

/-- An operation behind a control succeeds exactly when the host has the control. -/
theorem guarded_ok {name : String} {x : Calculator} :
    (do c.require name; return x : Except MissingControl Calculator) = .ok c' ↔
      c.controls.contains name = true ∧ c' = x := by
  unfold require
  split <;> simp_all [bind, Except.bind, pure, Except.pure, eq_comm]

theorem apply_valid {cmd : Command} (hv : c.state.Valid) (hr : cmd.InRange)
    (h : c.apply cmd = .ok c') : c'.state.Valid := by
  obtain ⟨kind, value, fb⟩ := cmd
  cases kind <;> cases value <;> simp only [Command.InRange] at hr <;>
    simp only [apply, CommandValue.toWhole, ok_mapError, ok_bind, mapError_eq_ok,
      selectLevel, stepLevel, selectRarity, selectEvolution, setNumber, setSwitch, readOdds,
      clearAll, guarded_ok] at h <;> obtain ⟨-, rfl⟩ := h
  · exact { hv with level := clampLevel_mem _ }
  · exact { hv with level := clampLevel_mem _ }
  · exact { hv with }
  · exact { hv with }
  · exact { hv with copies := hr.1 }
  · exact { hv with scouting := hr.1 }
  · exact { hv with bench := hr.1 }
  · exact { hv with refreshes := hr.1 }
  · exact { hv with }
  · exact { hv with }
  · exact { hv with }
  · exact CalcState.valid_fresh

theorem aim_ne_conversion {r : Except MissingControl Calculator} {x : ConversionError} :
    r.mapError ApplyError.missing ≠ .error (.conversion x) := by
  cases r <;> simp [Except.mapError]

theorem apply_converts {cmd : Command} (hr : cmd.InRange) (x : ConversionError) :
    c.apply cmd ≠ .error (.conversion x) := by
  obtain ⟨kind, value, fb⟩ := cmd
  cases kind <;> cases value <;> simp only [Command.InRange] at hr <;>
    simp only [apply, CommandValue.toWhole, ok_mapError, ok_bind] <;> exact aim_ne_conversion

/-- What every command keeps, dispatching keeps: a failed conversion stops where it stands. -/
theorem dispatch_keeps (P : Calculator → Prop) {cs : List Command}
    (hP : ∀ cmd ∈ cs, ∀ c c', P c → c.apply cmd = .ok c' → P c') (h : P c) : P (c.dispatch cs).1 := by
  induction cs generalizing c with
  | nil => exact h
  | cons cmd rest ih =>
    have hrest : ∀ cmd' ∈ rest, ∀ c c', P c → c.apply cmd' = .ok c' → P c' :=
      fun cmd' hm => hP cmd' (List.mem_cons_of_mem cmd hm)
    cases ha : c.apply cmd with
    | ok c₁ =>
      simp only [dispatch, ha]
      exact ih hrest (hP cmd List.mem_cons_self c c₁ h ha)
    | error x =>
      cases x with
      | missing _ => simp only [dispatch, ha]; exact ih hrest h
      | conversion _ => simp only [dispatch, ha]; exact h

theorem dispatch_converts {cs : List Command} (hr : ∀ cmd ∈ cs, cmd.InRange) :
    ∃ failed, (c.dispatch cs).2 = .ok failed := by
  induction cs generalizing c with
  | nil => exact ⟨[], rfl⟩
  | cons cmd rest ih =>
    have hrest := fun cmd' hm => hr cmd' (List.mem_cons_of_mem cmd hm)
    cases ha : c.apply cmd with
    | ok c₁ => simp only [dispatch, ha]; exact ih hrest
    | error x =>
      cases x with
      | missing _ =>
        obtain ⟨failed, hf⟩ := ih (c := c) hrest
        simp only [dispatch, ha, hf]
        exact ⟨cmd :: failed, rfl⟩
      | conversion x => exact absurd ha (apply_converts (hr cmd List.mem_cons_self) x)

end Calculator

end VoiceCalc
