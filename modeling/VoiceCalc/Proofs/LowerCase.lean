-- Lower-casing settles every character. No capital of the case table lower-cases to another
-- capital, so every character lower-casing produces is one it leaves alone wherever it stands,
-- and lower-casing twice is lower-casing once. The table is checked for this once, run against
-- run: a run whose images lie wholly below or above another run misses it, and the few runs that
-- overlap are checked code point by code point.
import VoiceCalc.Text.Lower

namespace VoiceCalc.Text

/-- Lower-casing leaves the character as it is, whatever stands around it. -/
def Settled (c : Char) : Prop := c ≠ 'Σ' ∧ lowerChar c = [c]

/-! ## The case table -/

/-- The code point the run sends `n` to. -/
def CaseRun.image (r : CaseRun) (n : Nat) : Nat := (n + r.delta).toNat

/-- The capitals that lower-casing moves: those of the runs, and the dotted capital I, which
lower-cases on its own. -/
def capitalRuns : List CaseRun := ⟨0x130, 0x130, 1, 0⟩ :: lowerRuns.toList

/-- No code point of `r` is sent to one that `r'` covers: the images of `r` lie wholly below or
above `r'`, or each is checked. -/
def CaseRun.missesImagesOf (r' r : CaseRun) : Bool :=
  r.image r.hi < r'.lo || r'.hi < r.image r.lo ||
    (List.range ((r.hi - r.lo) / r.step + 1)).all fun k => !r'.covers (r.image (r.lo + k * r.step))

/-- No capital starts at the code point zero, and no capital is sent to a capital. -/
def imagesAreSmall : Bool :=
  capitalRuns.all (fun r' => 0 < r'.lo) &&
    lowerRuns.toList.all fun r => capitalRuns.all fun r' => r'.missesImagesOf r

theorem imagesAreSmall_eq : imagesAreSmall = true := by decide +kernel

/-- A covered code point is the start of the run moved on by a whole number of steps. -/
theorem CaseRun.eq_of_covers {r : CaseRun} {n : Nat} (h : r.covers n = true) :
    ∃ k, k < (r.hi - r.lo) / r.step + 1 ∧ n = r.lo + k * r.step := by
  simp only [CaseRun.covers, Bool.and_eq_true, decide_eq_true_eq, beq_iff_eq] at h
  obtain ⟨⟨hlo, hhi⟩, hmod⟩ := h
  refine ⟨(n - r.lo) / r.step, Nat.lt_succ_of_le (Nat.div_le_div_right (by omega)), ?_⟩
  have := Nat.div_add_mod (n - r.lo) r.step
  rw [hmod, Nat.mul_comm] at this
  omega

theorem CaseRun.image_le_image (r : CaseRun) {m n : Nat} (h : m ≤ n) : r.image m ≤ r.image n := by
  unfold CaseRun.image
  omega

theorem covers_image {r r' : CaseRun} {n : Nat} (hr : r ∈ lowerRuns.toList) (hr' : r' ∈ capitalRuns)
    (hn : r.covers n = true) : r'.covers (r.image n) = false := by
  have hall := (Bool.and_eq_true_iff.mp imagesAreSmall_eq).2
  have hm : r'.missesImagesOf r = true := List.all_eq_true.mp (List.all_eq_true.mp hall r hr) r' hr'
  obtain ⟨k, hk, rfl⟩ := CaseRun.eq_of_covers hn
  have hbounds : r.lo ≤ r.lo + k * r.step ∧ r.lo + k * r.step ≤ r.hi := by
    simp only [CaseRun.covers, Bool.and_eq_true, decide_eq_true_eq] at hn
    exact hn.1
  simp only [CaseRun.missesImagesOf, Bool.or_eq_true, decide_eq_true_eq, List.all_eq_true,
    List.mem_range, Bool.not_eq_eq_eq_not, Bool.not_true] at hm
  rcases hm with (hbelow | habove) | heach
  · have := r.image_le_image hbounds.2
    simp only [CaseRun.covers, Bool.and_eq_false_iff, decide_eq_false_iff_not]
    omega
  · have := r.image_le_image hbounds.1
    simp only [CaseRun.covers, Bool.and_eq_false_iff, decide_eq_false_iff_not]
    omega
  · exact heach k hk

theorem covers_zero {r' : CaseRun} (hr' : r' ∈ capitalRuns) : r'.covers 0 = false := by
  have hpos := List.all_eq_true.mp (Bool.and_eq_true_iff.mp imagesAreSmall_eq).1 r' hr'
  simp only [decide_eq_true_eq] at hpos
  simp only [CaseRun.covers, Bool.and_eq_false_iff, decide_eq_false_iff_not]
  omega

/-- A code point names its character, or no character at all and then the null character. -/
theorem toNat_ofNat_cases (m : Nat) : (Char.ofNat m).toNat = m ∨ (Char.ofNat m).toNat = 0 := by
  unfold Char.ofNat
  by_cases h : m.isValidChar
  · rw [dif_pos h]; exact .inl rfl
  · rw [dif_neg h]; exact .inr rfl

/-! ## Settled characters -/

/-- Lower-casing a character alone: the dotted capital I gives a plain i, and any other character
moves by the first run that covers it, looked up in the runs as a list. -/
theorem lowerSimple_dotted : lowerSimple 'İ' = 'i' := by
  rw [lowerSimple, if_pos rfl]

theorem lowerSimple_of_find? {c : Char} {r : CaseRun} (hİ : c ≠ 'İ')
    (h : lowerRuns.toList.find? (·.covers c.toNat) = some r) :
    lowerSimple c = Char.ofNat (c.toNat + r.delta).toNat := by
  rw [lowerSimple, if_neg hİ, ← Array.find?_toList, h]

theorem lowerSimple_of_find?_none {c : Char} (hİ : c ≠ 'İ')
    (h : lowerRuns.toList.find? (·.covers c.toNat) = none) : lowerSimple c = c := by
  rw [lowerSimple, if_neg hİ, ← Array.find?_toList, h]

/-- No capital run covers the character. -/
def uncovered (c : Char) : Bool := capitalRuns.all fun r' => !r'.covers c.toNat

theorem uncovered_of_forall {c : Char} (h : ∀ r' ∈ capitalRuns, r'.covers c.toNat = false) :
    uncovered c = true :=
  List.all_eq_true.mpr fun r' hr' => by simp [h r' hr']

theorem settled_of_uncovered {c : Char} (h : uncovered c = true) : Settled c := by
  have hİ : c ≠ 'İ' := by
    rintro rfl
    exact absurd h (by decide +kernel)
  have hnone : lowerRuns.toList.find? (·.covers c.toNat) = none := by
    refine List.find?_eq_none.mpr fun r hr => ?_
    have := List.all_eq_true.mp h r (List.mem_cons_of_mem _ hr)
    simpa using this
  refine ⟨?_, ?_⟩
  · rintro rfl
    exact absurd h (by decide +kernel)
  · rw [lowerChar, if_neg hİ, lowerSimple_of_find?_none hİ hnone]

/-- Whatever character is lower-cased alone, the character it gives is settled. -/
theorem lowerSimple_settled (c : Char) : Settled (lowerSimple c) := by
  by_cases hİ : c = 'İ'
  · rw [hİ, lowerSimple_dotted]
    exact settled_of_uncovered (by decide +kernel)
  cases hr : lowerRuns.toList.find? (·.covers c.toNat) with
  | some r =>
    rw [lowerSimple_of_find? hİ hr]
    have hcov := List.find?_some hr
    have hmem := List.mem_of_find?_eq_some hr
    refine settled_of_uncovered (uncovered_of_forall fun r' hr' => ?_)
    rcases toNat_ofNat_cases (c.toNat + r.delta).toNat with h | h
    · rw [h]; exact covers_image hmem hr' hcov
    · rw [h]; exact covers_zero hr'
  | none =>
    rw [lowerSimple_of_find?_none hİ hr]
    refine settled_of_uncovered (uncovered_of_forall fun r' hr' => ?_)
    rcases List.mem_cons.mp hr' with rfl | hr'
    · have hne : c.toNat ≠ 0x130 := fun h => hİ (Char.ext (UInt32.toNat_inj.mp h))
      simp only [CaseRun.covers, Bool.and_eq_false_iff, decide_eq_false_iff_not]
      omega
    · simpa using List.find?_eq_none.mp hr r' hr'

theorem settled_of_mem_lowerChar {c d : Char} (h : d ∈ lowerChar c) : Settled d := by
  unfold lowerChar at h
  split at h
  · simp only [List.mem_cons, List.not_mem_nil, or_false] at h
    rcases h with rfl | rfl <;> exact settled_of_uncovered (by decide +kernel)
  · rw [List.mem_singleton.mp h]
    exact lowerSimple_settled c

theorem settled_of_mem_lowerFrom : ∀ {cs : List Char} (before : List Char) {d : Char},
    d ∈ lowerFrom before cs → Settled d
  | [], _, _, h => by cases h
  | c :: cs, before, d, h => by
    rw [lowerFrom, List.mem_append] at h
    rcases h with h | h
    · split at h
      · rw [List.mem_singleton.mp h]
        split <;> exact settled_of_uncovered (by decide +kernel)
      · exact settled_of_mem_lowerChar h
    · exact settled_of_mem_lowerFrom (c :: before) h

theorem lowerFrom_of_settled : ∀ {cs : List Char} (before : List Char), (∀ c ∈ cs, Settled c) →
    lowerFrom before cs = cs
  | [], _, _ => rfl
  | c :: cs, before, h => by
    obtain ⟨hσ, hc⟩ := h c List.mem_cons_self
    rw [lowerFrom, if_neg hσ, hc, lowerFrom_of_settled (c :: before) fun d hd =>
      h d (List.mem_cons_of_mem c hd)]
    rfl

theorem lower_lower (s : String) : lower (lower s) = lower s := by
  unfold lower
  rw [String.toList_ofList, lowerFrom_of_settled [] fun d hd => settled_of_mem_lowerFrom [] hd]

end VoiceCalc.Text
