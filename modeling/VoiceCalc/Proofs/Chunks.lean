-- The claims of a reading: every claim the passes make is a chunk of the token list that asks for
-- its command, and no token feeds two commands. Each pass leaves the chart as it was or adds one
-- claim on free positions, so the invariant `Chart.Sound` is kept pass by pass and holds of the
-- chart read off any token list.
import Mathlib.Data.List.Nodup
import VoiceCalc.Parse

namespace VoiceCalc

open Vocabulary

/-! ## Chunks -/

/-- The token at position `i` is one of the words. -/
def WordAt (ts : List String) (i : Nat) (ws : List String) : Prop := ∃ w ∈ ws, ts[i]? = some w

/-- The token at position `i` is a run of ASCII digits worth `n`. -/
def NumberAt (ts : List String) (i n : Nat) : Prop :=
  ∃ w, ts[i]? = some w ∧ w.toList ≠ [] ∧ (∀ c ∈ w.toList, c.isDigit) ∧ digitsValue w.toList = n

/-- The tokens at the positions form a chunk that asks for the command: a switch keyword beside an
on-word or off-word, a flag keyword with at most one companion beside it, three consecutive words
from the slots of a question, a field keyword with a number in range one or two places away, a
rarity word, a number of stars before a star word, a fixed phrase, a lone keyword, or a lone
number from 1 to 9 for the level. -/
inductive Licenses (ts : List String) : List Nat → Command → Prop
  | switch {t : Toggle} {i j : Nat} {w : String} : t ∈ toggles → WordAt ts i t.keywords →
      (j + 1 = i ∨ j = i + 1) → ts[j]? = some w → w ∈ onWords ∨ w ∈ offWords →
      Licenses ts [i, j] ⟨t.kind, .switch (onWords.contains w), t.feedback (onWords.contains w)⟩
  | flag {f : Flag} {i : Nat} : f ∈ flags → ts[i]? = some f.keyword →
      Licenses ts [i] ⟨f.kind, .switch true, f.feedback⟩
  | flagWith {f : Flag} {i j : Nat} : f ∈ flags → ts[i]? = some f.keyword →
      (j = i + 1 ∨ j + 1 = i) → WordAt ts j f.companions →
      Licenses ts [i, j] ⟨f.kind, .switch true, f.feedback⟩
  | question {q : Question} {i : Nat} : q ∈ questions → WordAt ts i q.first →
      WordAt ts (i + 1) q.second → WordAt ts (i + 2) q.third →
      Licenses ts [i, i + 1, i + 2] ⟨q.kind, .none, q.feedback⟩
  | field {f : Field} {i j n : Nat} : f ∈ fields → WordAt ts i f.keywords →
      (j = i + 1 ∨ j = i + 2 ∨ j + 1 = i ∨ j + 2 = i) → NumberAt ts j n → f.lo ≤ n → n ≤ f.hi →
      Licenses ts [i, j] ⟨f.kind, .number n, f.label n⟩
  | rarity {i : Nat} {w r : String} : ts[i]? = some w → (w, r) ∈ rarities →
      Licenses ts [i] ⟨.rarity, .word r, r⟩
  | stage {i n : Nat} {value shown : String} : NumberAt ts i n → stageOf? n = some (value, shown) →
      WordAt ts (i + 1) starWords → Licenses ts [i, i + 1] ⟨.evolution, .word value, shown⟩
  | phrase {p : Phrase} {i : Nat} : p ∈ phrases → p.words <+: ts.drop i →
      Licenses ts (List.range' i p.words.length) ⟨p.kind, p.value, p.feedback⟩
  | keyword {k : Keyword} {i : Nat} : k ∈ keywords → WordAt ts i k.words →
      Licenses ts [i] ⟨k.kind, .none, k.feedback⟩
  | lone {i n : Nat} : NumberAt ts i n → 1 ≤ n → n ≤ 9 →
      Licenses ts [i] ⟨.level, .number n, s!"Level {n}"⟩

/-- A search in `Except` that finds something found it at a member of the list. -/
theorem findSomeM?_eq_ok_some {ε α β : Type} {f : α → Except ε (Option β)} :
    ∀ {l : List α} {b : β}, l.findSomeM? f = .ok (some b) → ∃ a ∈ l, f a = .ok (some b)
  | [], _, h => by simp [pure, Except.pure] at h
  | a :: l, b, h => by
    rw [List.findSomeM?_cons, except_bind_eq_ok] at h
    obtain ⟨r, hr, hk⟩ := h
    cases r with
    | some b' =>
      simp only [pure, Except.pure, Except.ok.injEq] at hk
      exact ⟨a, List.mem_cons_self, hk ▸ hr⟩
    | none =>
      obtain ⟨a', ha', hf⟩ := findSomeM?_eq_ok_some hk
      exact ⟨a', List.mem_cons_of_mem a ha', hf⟩

/-- A search in `Except` whose hit is read off an optional value found it in that value. -/
theorem except_map_eq_ok_some {ε α β : Type} {x : Except ε (Option α)} {g : α → β} {b : β}
    (h : (do return (← x).map g) = Except.ok (some b)) : ∃ a, x = .ok (some a) ∧ g a = b := by
  rw [except_bind_eq_ok] at h
  obtain ⟨r, hr, hk⟩ := h
  cases r with
  | some a =>
    simp only [pure, Except.pure, Except.ok.injEq, Option.map_some, Option.some.injEq] at hk
    exact ⟨a, hr, hk⟩
  | none => simp [pure, Except.pure] at hk

/-- A property kept by every step of a fold in `Except` holds of a fold that succeeds. -/
theorem foldlM_keeps {ε α β : Type} (P : β → Prop) {step : β → α → Except ε β} :
    ∀ {l : List α} {b b' : β}, (∀ x ∈ l, ∀ c c', P c → step c x = .ok c' → P c') → P b →
      l.foldlM step b = .ok b' → P b'
  | [], b, b', _, hb, h => by
    simp only [List.foldlM_nil, pure, Except.pure, Except.ok.injEq] at h
    exact h ▸ hb
  | x :: l, b, b', hs, hb, h => by
    rw [List.foldlM_cons, except_bind_eq_ok] at h
    obtain ⟨c, hc, hrest⟩ := h
    exact foldlM_keeps P (fun y hy => hs y (List.mem_cons_of_mem x hy))
      (hs x List.mem_cons_self b c hb hc) hrest

/-- A token that reads as a number is a run of ASCII digits worth that number. -/
theorem tokenNumber?_eq_some {t : String} {n : Nat} (h : tokenNumber? t = .ok (some n)) :
    t.toList ≠ [] ∧ (∀ c ∈ t.toList, c.isDigit) ∧ digitsValue t.toList = n := by
  simp only [tokenNumber?] at h
  split at h
  · rename_i hd
    simp only [Bool.and_eq_true, Bool.not_eq_true', List.isEmpty_eq_false_iff,
      List.all_eq_true] at hd
    split at h
    · simp only [Except.ok.injEq, Option.some.injEq] at h
      exact ⟨hd.1, hd.2, h⟩
    · cases h
  · cases h

namespace Chart

/-! ## Free positions -/

variable {ch : Chart} {i : Nat}

theorem used_claim (ch : Chart) (c : Command) (ps : List Nat) :
    (ch.claim c ps).used = ch.used ++ ps := by
  simp [used, claim]

theorem free_iff : ch.free i = true ↔ i < ch.tokens.length ∧ i ∉ ch.used := by
  simp [free]

theorem getElem?_of_free (h : ch.free i = true) : ch.tokens[i]? = some (ch.token i) := by
  have hi := (free_iff.1 h).1
  simp [token, List.getD_eq_getElem?_getD, List.getElem?_eq_getElem hi]

theorem freeIn_iff {ws : List String} :
    ch.freeIn i ws = true ↔ ch.free i = true ∧ WordAt ch.tokens i ws := by
  unfold freeIn WordAt
  constructor
  · intro h
    simp only [Bool.and_eq_true, List.contains_iff_mem] at h
    exact ⟨h.1, ch.token i, h.2, getElem?_of_free h.1⟩
  · rintro ⟨hf, w, hw, hi⟩
    rw [getElem?_of_free hf, Option.some.injEq] at hi
    simp [hf, hi, hw]

theorem numberAt_some {n : Nat} (h : ch.numberAt i = .ok (some n)) :
    ch.free i = true ∧ NumberAt ch.tokens i n := by
  unfold numberAt at h
  split at h
  · rename_i hf
    exact ⟨hf, ch.token i, getElem?_of_free hf, tokenNumber?_eq_some h⟩
  · cases h

/-! ## The invariant -/

/-- The claims of a chart hold distinct positions inside the token list, and each is a chunk that
asks for its command. -/
structure Sound (ch : Chart) : Prop where
  nodup : ch.used.Nodup
  lt : ∀ p ∈ ch.used, p < ch.tokens.length
  licensed : ∀ c ∈ ch.claims, Licenses ch.tokens c.positions c.command

/-- What one pass may do: leave the chart as it was, or add one claim on distinct free positions
that form a chunk asking for its command. -/
def Grows (ch ch' : Chart) : Prop :=
  ch' = ch ∨ ∃ c ps, ch' = ch.claim c ps ∧ ps.Nodup ∧ (∀ p ∈ ps, ch.free p = true) ∧
    Licenses ch.tokens ps c

theorem sound_start (ts : List String) : (start ts).Sound :=
  ⟨by simp [start, used], by simp [start, used], by simp [start]⟩

theorem Sound.claim {c : Command} {ps : List Nat} (h : ch.Sound) (hn : ps.Nodup)
    (hf : ∀ p ∈ ps, ch.free p = true) (hl : Licenses ch.tokens ps c) : (ch.claim c ps).Sound := by
  refine ⟨?_, ?_, ?_⟩
  · rw [used_claim, List.nodup_append]
    refine ⟨h.nodup, hn, ?_⟩
    intro a ha b hb hab
    subst hab
    exact (free_iff.1 (hf a hb)).2 ha
  · intro p hp
    rw [used_claim, List.mem_append] at hp
    rcases hp with hp | hp
    · exact h.lt p hp
    · exact (free_iff.1 (hf p hp)).1
  · intro c' hc'
    rw [claims_claim, List.mem_append, List.mem_singleton] at hc'
    rcases hc' with hc' | rfl
    · exact h.licensed c' hc'
    · exact hl

theorem Sound.grows {ch' : Chart} (h : ch.Sound) (hg : ch.Grows ch') : ch'.Sound := by
  rcases hg with rfl | ⟨c, ps, rfl, hn, hf, hl⟩
  · exact h
  · exact h.claim hn hf hl

theorem grows_claim {c : Command} {ps : List Nat} (hn : ps.Nodup) (hf : ∀ p ∈ ps, ch.free p = true)
    (hl : Licenses ch.tokens ps c) : ch.Grows (ch.claim c ps) :=
  Or.inr ⟨c, ps, rfl, hn, hf, hl⟩

theorem grows_self : ch.Grows ch := Or.inl rfl

theorem tokens_of_grows {ch' : Chart} (hg : ch.Grows ch') : ch'.tokens = ch.tokens := by
  rcases hg with rfl | ⟨c, ps, rfl, -⟩
  · rfl
  · rfl

/-- A pair of positions is one claim's worth when both are free and they differ. -/
theorem pair_fits {j : Nat} (hi : ch.free i = true) (hj : ch.free j = true) (hij : i ≠ j) :
    [i, j].Nodup ∧ ∀ p ∈ [i, j], ch.free p = true := by
  refine ⟨by simp [hij], ?_⟩
  intro p hp
  simp only [List.mem_cons, List.not_mem_nil, or_false] at hp
  rcases hp with rfl | rfl
  · exact hi
  · exact hj

/-! ## Switches, flags and questions -/

theorem mem_before {j : Nat} : j ∈ before i ↔ j + 1 = i := by
  unfold before
  split <;> simp <;> omega

/-- A switch word beside a keyword stands just before or just after it, is free, and turns the
switch on exactly when it is an on-word. -/
theorem switchBeside_some {on : Bool} {j : Nat} (h : ch.switchBeside i = some (on, j)) :
    (j + 1 = i ∨ j = i + 1) ∧ ch.free j = true ∧
      ∃ w, ch.tokens[j]? = some w ∧ (w ∈ onWords ∨ w ∈ offWords) ∧ on = onWords.contains w := by
  obtain ⟨j', hj', he⟩ := List.exists_of_findSome?_eq_some h
  have hadj : j' + 1 = i ∨ j' = i + 1 := by
    rcases List.mem_append.1 hj' with hb | hb
    · exact Or.inl (mem_before.1 hb)
    · exact Or.inr (List.mem_singleton.1 hb)
  split at he
  · rename_i hon
    simp only [Option.some.injEq, Prod.mk.injEq] at he
    obtain ⟨rfl, rfl⟩ := he
    obtain ⟨hf, w, hw, hj⟩ := freeIn_iff.1 hon
    exact ⟨hadj, hf, w, hj, Or.inl hw, by simp [hw]⟩
  · rename_i hon
    split at he
    · rename_i hoff
      simp only [Option.some.injEq, Prod.mk.injEq] at he
      obtain ⟨rfl, rfl⟩ := he
      obtain ⟨hf, w, hw, hj⟩ := freeIn_iff.1 hoff
      have hnot : w ∉ onWords := fun hw' => hon (freeIn_iff.2 ⟨hf, w, hw', hj⟩)
      exact ⟨hadj, hf, w, hj, Or.inr hw, by simp [hnot]⟩
    · cases he

theorem grows_readToggle {t : Toggle} (ht : t ∈ toggles) : ch.Grows (ch.readToggle t) := by
  unfold readToggle
  dsimp only
  split
  · rename_i i j on hit
    obtain ⟨i', -, hi'⟩ := List.exists_of_findSome?_eq_some hit
    split at hi'
    · rename_i hk
      obtain ⟨⟨on', j'⟩, hs, he⟩ := Option.map_eq_some_iff.1 hi'
      simp only [Prod.mk.injEq] at he
      obtain ⟨rfl, rfl, rfl⟩ := he
      obtain ⟨hadj, hj, w, hw, hword, rfl⟩ := switchBeside_some hs
      obtain ⟨hi, hkw⟩ := freeIn_iff.1 hk
      obtain ⟨hn, hf⟩ := pair_fits hi hj (by omega)
      exact grows_claim hn hf (.switch ht hkw hadj hw hword)
    · cases hi'
  · exact grows_self

theorem grows_readFlag {f : Flag} (hf : f ∈ flags) : ch.Grows (ch.readFlag f) := by
  unfold readFlag
  split
  · exact grows_self
  · split
    · rename_i i hit
      have hi := List.find?_some hit
      simp only [Bool.and_eq_true, beq_iff_eq] at hi
      have hk : ch.tokens[i]? = some f.keyword := hi.1 ▸ getElem?_of_free hi.2
      rcases hc : ([i + 1] ++ before i).find? fun j => ch.freeIn j f.companions with _ | j
      · refine grows_claim (by simp) (by simpa using hi.2) (.flag hf hk)
      · have hj := List.find?_some hc
        have hadj : j = i + 1 ∨ j + 1 = i := by
          rcases List.mem_append.1 (List.mem_of_find?_eq_some hc) with hb | hb
          · exact Or.inl (List.mem_singleton.1 hb)
          · exact Or.inr (mem_before.1 hb)
        obtain ⟨hjf, hw⟩ := freeIn_iff.1 hj
        obtain ⟨hn, hfree⟩ := pair_fits hi.2 hjf (by omega)
        exact grows_claim hn hfree (.flagWith hf hk hadj hw)
    · exact grows_self

theorem grows_readQuestion {q : Question} (hq : q ∈ questions) : ch.Grows (ch.readQuestion q) := by
  unfold readQuestion
  split
  · exact grows_self
  · split
    · rename_i i hit
      have ha := List.find?_some hit
      simp only [asks, Bool.and_eq_true] at ha
      obtain ⟨⟨h0, h1⟩, h2⟩ := ha
      obtain ⟨f0, w0⟩ := freeIn_iff.1 h0
      obtain ⟨f1, w1⟩ := freeIn_iff.1 h1
      obtain ⟨f2, w2⟩ := freeIn_iff.1 h2
      refine grows_claim (by simp) ?_ (.question hq w0 w1 w2)
      intro p hp
      simp only [List.mem_cons, List.not_mem_nil, or_false] at hp
      rcases hp with rfl | rfl | rfl
      · exact f0
      · exact f1
      · exact f2
    · exact grows_self

/-! ## Numbers beside their keywords -/

theorem mem_twoBefore {j : Nat} (h : j ∈ twoBefore i) : j + 1 = i ∨ j + 2 = i := by
  match i with
  | 0 => simp [twoBefore] at h
  | 1 => simp [twoBefore] at h; omega
  | i + 2 => simp [twoBefore, List.range_succ] at h; omega

/-- The number a keyword takes stands one or two places from it, and is free. -/
theorem numberNear_some {j n : Nat} (h : ch.numberNear i = .ok (some (j, n))) :
    (j = i + 1 ∨ j = i + 2 ∨ j + 1 = i ∨ j + 2 = i) ∧ ch.free j = true ∧
      NumberAt ch.tokens j n := by
  obtain ⟨j', hj', hm⟩ := findSomeM?_eq_ok_some h
  obtain ⟨n', hn', he⟩ := except_map_eq_ok_some hm
  simp only [Prod.mk.injEq] at he
  obtain ⟨rfl, rfl⟩ := he
  have hnear : j' = i + 1 ∨ j' = i + 2 ∨ j' + 1 = i ∨ j' + 2 = i := by
    rcases List.mem_append.1 hj' with hf | hb
    · simp only [List.mem_cons, List.not_mem_nil, or_false] at hf
      omega
    · have := mem_twoBefore hb
      omega
  exact ⟨hnear, numberAt_some hn'⟩

theorem fieldAt_some {f : Field} {j n : Nat} (h : ch.fieldAt f i = .ok (some (j, n))) :
    ch.freeIn i f.keywords = true ∧ ch.numberNear i = .ok (some (j, n)) ∧ f.accepts n = true := by
  unfold fieldAt at h
  split at h
  · rename_i hk
    rw [except_bind_eq_ok] at h
    obtain ⟨r, hr, hm⟩ := h
    cases r with
    | some r =>
      obtain ⟨j', n'⟩ := r
      simp only [pure, Except.pure, Except.ok.injEq] at hm
      split at hm
      · rename_i ha
        simp only [Option.some.injEq, Prod.mk.injEq] at hm
        obtain ⟨rfl, rfl⟩ := hm
        exact ⟨hk, hr, ha⟩
      · cases hm
    | none => simp [pure, Except.pure] at hm
  · simp [pure, Except.pure] at h

theorem grows_readField {f : Field} {ch' : Chart} (hf : f ∈ fields) (h : ch.readField f = .ok ch') :
    ch.Grows ch' := by
  unfold readField at h
  rw [except_bind_eq_ok] at h
  obtain ⟨hit, hh, hk⟩ := h
  cases hit with
  | none =>
    simp only [pure, Except.pure, Except.ok.injEq] at hk
    exact hk ▸ grows_self
  | some x =>
    obtain ⟨i, j, n⟩ := x
    simp only [pure, Except.pure, Except.ok.injEq] at hk
    subst hk
    obtain ⟨i', -, hm⟩ := findSomeM?_eq_ok_some hh
    obtain ⟨⟨j', n'⟩, hfa, he⟩ := except_map_eq_ok_some hm
    simp only [Prod.mk.injEq] at he
    obtain ⟨rfl, rfl, rfl⟩ := he
    obtain ⟨hk, hnear, ha⟩ := fieldAt_some hfa
    obtain ⟨hadj, hj, hnum⟩ := numberNear_some hnear
    obtain ⟨hi, hkw⟩ := freeIn_iff.1 hk
    simp only [Field.accepts, Bool.and_eq_true, decide_eq_true_eq] at ha
    obtain ⟨hn, hfree⟩ := pair_fits hi hj (by omega)
    exact grows_claim hn hfree (.field hf hkw hadj hnum ha.1 ha.2)

/-! ## Rarity and stars -/

theorem rarityOf?_some {w r : String} (h : rarityOf? w = some r) : (w, r) ∈ rarities := by
  obtain ⟨e, he, rfl⟩ := Option.map_eq_some_iff.1 h
  have hw := List.find?_some he
  simp only [beq_iff_eq] at hw
  rw [← hw]
  exact List.mem_of_find?_eq_some he

theorem grows_readRarity : ch.Grows ch.readRarity := by
  unfold readRarity
  dsimp only
  split
  · rename_i i r hit
    obtain ⟨i', -, hi'⟩ := List.exists_of_findSome?_eq_some hit
    split at hi'
    · rename_i hf
      obtain ⟨r', hr, he⟩ := Option.map_eq_some_iff.1 hi'
      simp only [Prod.mk.injEq] at he
      obtain ⟨rfl, rfl⟩ := he
      exact grows_claim (by simp) (by simpa using hf)
        (.rarity (getElem?_of_free hf) (rarityOf?_some hr))
    · cases hi'
  · exact grows_self

theorem stageAt_some {s : String × String} (h : ch.stageAt i = .ok (some s)) :
    ∃ n, ch.numberAt i = .ok (some n) ∧ stageOf? n = some s ∧
      ch.freeIn (i + 1) starWords = true := by
  unfold stageAt at h
  rw [except_bind_eq_ok] at h
  obtain ⟨r, hr, hm⟩ := h
  split at hm
  · rename_i s' hs
    simp only [pure, Except.pure, Except.ok.injEq] at hm
    split at hm
    · rename_i hstar
      simp only [Option.some.injEq] at hm
      subst hm
      cases r with
      | some n => exact ⟨n, hr, hs, hstar⟩
      | none => simp at hs
    · cases hm
  · simp [pure, Except.pure] at hm

theorem grows_readStage {ch' : Chart} (h : ch.readStage = .ok ch') : ch.Grows ch' := by
  unfold readStage at h
  rw [except_bind_eq_ok] at h
  obtain ⟨hit, hh, hk⟩ := h
  cases hit with
  | none =>
    simp only [pure, Except.pure, Except.ok.injEq] at hk
    exact hk ▸ grows_self
  | some x =>
    obtain ⟨i, value, shown⟩ := x
    simp only [pure, Except.pure, Except.ok.injEq] at hk
    subst hk
    obtain ⟨i', -, hm⟩ := findSomeM?_eq_ok_some hh
    obtain ⟨s, hs, he⟩ := except_map_eq_ok_some hm
    simp only [Prod.mk.injEq] at he
    obtain ⟨rfl, rfl⟩ := he
    obtain ⟨n, hn, hstage, hstar⟩ := stageAt_some hs
    obtain ⟨hi, hnum⟩ := numberAt_some hn
    obtain ⟨hj, hw⟩ := freeIn_iff.1 hstar
    obtain ⟨hnd, hfree⟩ := pair_fits hi hj (by omega)
    exact grows_claim hnd hfree (.stage hnum hstage hw)

/-! ## Phrases, keywords and a lone number -/

theorem grows_readPhrase {p : Phrase} (hp : p ∈ phrases) : ch.Grows (ch.readPhrase p) := by
  unfold readPhrase
  split
  · exact grows_self
  · split
    · rename_i i hit
      have ha := List.find?_some hit
      simp only [phraseAt, Bool.and_eq_true, beq_iff_eq, List.all_eq_true] at ha
      have hpre : p.words <+: ch.tokens.drop i := List.prefix_iff_eq_take.2 ha.1.symm
      exact grows_claim List.nodup_range' ha.2 (.phrase hp hpre)
    · exact grows_self

theorem grows_readKeyword {k : Keyword} (hk : k ∈ keywords) : ch.Grows (ch.readKeyword k) := by
  unfold readKeyword
  split
  · exact grows_self
  · split
    · rename_i i hit
      have hfw := List.find?_some hit
      obtain ⟨hf, hw⟩ := freeIn_iff.1 hfw
      exact grows_claim (by simp) (by simpa using hf) (.keyword hk hw)
    · exact grows_self

theorem fallbackLevel?_some {n : Nat} {c : Command} (h : fallbackLevel? n = some c) :
    1 ≤ n ∧ n ≤ 9 ∧ c = ⟨.level, .number n, s!"Level {n}"⟩ := by
  unfold fallbackLevel? at h
  split at h
  · rename_i hr
    simp only [Bool.and_eq_true, decide_eq_true_eq] at hr
    simp only [Option.some.injEq] at h
    exact ⟨hr.1, hr.2, h.symm⟩
  · cases h

theorem grows_readLoneNumber {ch' : Chart} (h : ch.readLoneNumber = .ok ch') : ch.Grows ch' := by
  unfold readLoneNumber at h
  split at h
  · simp only [pure, Except.pure, Except.ok.injEq] at h
    exact h ▸ grows_self
  · rw [except_bind_eq_ok] at h
    obtain ⟨hit, hh, hk⟩ := h
    cases hit with
    | none =>
      simp only [pure, Except.pure, Except.ok.injEq] at hk
      exact hk ▸ grows_self
    | some x =>
      obtain ⟨i, c⟩ := x
      simp only [pure, Except.pure, Except.ok.injEq] at hk
      subst hk
      obtain ⟨i', -, hm⟩ := findSomeM?_eq_ok_some hh
      rw [except_bind_eq_ok] at hm
      obtain ⟨r, hr, hk⟩ := hm
      simp only [pure, Except.pure, Except.ok.injEq] at hk
      cases r with
      | none => simp at hk
      | some n =>
        obtain ⟨c', hc', he⟩ := Option.map_eq_some_iff.1 hk
        simp only [Prod.mk.injEq] at he
        obtain ⟨rfl, rfl⟩ := he
        obtain ⟨hf, hnum⟩ := numberAt_some hr
        obtain ⟨h1, h9, rfl⟩ := fallbackLevel?_some hc'
        exact grows_claim (by simp) (by simpa using hf) (.lone hnum h1 h9)

/-! ## Every pass -/

/-- A sound chart of the token list `ts`. -/
def SoundOn (ts : List String) (ch : Chart) : Prop := ch.tokens = ts ∧ ch.Sound

theorem SoundOn.grows {ts : List String} {ch' : Chart} (h : SoundOn ts ch) (hg : ch.Grows ch') :
    SoundOn ts ch' :=
  ⟨(tokens_of_grows hg).trans h.1, h.2.grows hg⟩

theorem soundOn_foldl {α : Type} {ts : List String} {l : List α} {step : Chart → α → Chart}
    (hs : ∀ x ∈ l, ∀ ch : Chart, ch.Grows (step ch x)) (h : SoundOn ts ch) :
    SoundOn ts (l.foldl step ch) :=
  List.foldlRecOn l step h fun c hc x hx => hc.grows (hs x hx c)

/-- Every pass keeps a chart sound, so the chart read off a chart that is sound is sound. -/
theorem soundOn_readAll {ts : List String} {ch' : Chart} (h : SoundOn ts ch)
    (hr : ch.readAll = .ok ch') : SoundOn ts ch' := by
  unfold readAll at hr
  simp only [except_bind_eq_ok] at hr
  obtain ⟨c4, h4, c6, h6, h9⟩ := hr
  have s3 := soundOn_foldl (fun q hq c => grows_readQuestion hq)
    (soundOn_foldl (fun f hf c => grows_readFlag hf)
      (soundOn_foldl (fun t ht c => grows_readToggle ht) h))
  have s4 := foldlM_keeps (SoundOn ts) (fun f hf c c' hc he => hc.grows (grows_readField hf he))
    s3 h4
  have s6 := (s4.grows grows_readRarity).grows (grows_readStage h6)
  have s8 := soundOn_foldl (fun k hk c => grows_readKeyword hk)
    (soundOn_foldl (fun p hp c => grows_readPhrase hp) s6)
  exact s8.grows (grows_readLoneNumber h9)

end Chart

/-! ## The claims of a reading -/

/-- Each command read from a token list comes with the positions it took: no position is taken
twice, each lies inside the list, and the tokens at the positions of each claim form a chunk that
asks for its command. The positions taken are the `used` ones of the chart, so they are exactly
the tokens marked as consumed. -/
theorem claims_are_disjoint_licensed_chunks (tokens : List String) (cs : List Claim)
    (h : claimsOf tokens = .ok cs) :
    cs.Pairwise (fun a b => ∀ p ∈ a.positions, p ∉ b.positions) ∧
      (∀ c ∈ cs, c.positions.Nodup ∧ ∀ p ∈ c.positions, p < tokens.length) ∧
      ∀ c ∈ cs, Licenses tokens c.positions c.command := by
  unfold claimsOf at h
  rcases hr : (Chart.start tokens).readAll with e | ch
  · rw [hr] at h
    cases h
  · rw [hr] at h
    simp only [Functor.map, Except.map, Except.ok.injEq] at h
    subst h
    have hstart : Chart.SoundOn tokens (Chart.start tokens) := ⟨rfl, Chart.sound_start tokens⟩
    obtain ⟨htok, hs⟩ := Chart.soundOn_readAll hstart hr
    have hnd := hs.nodup
    unfold Chart.used at hnd
    rw [List.nodup_flatMap] at hnd
    refine ⟨hnd.2.imp fun hab p hpa hpb => hab hpa hpb, ?_, ?_⟩
    · intro c hc
      refine ⟨hnd.1 c hc, fun p hp => htok ▸ hs.lt p ?_⟩
      exact List.mem_flatMap.2 ⟨c, hc, hp⟩
    · intro c hc
      exact htok ▸ hs.licensed c hc

/-- "level 7 rare have 3 pve round": the flag with its companion, the level, the copies and the
rarity, each on tokens of its own. -/
theorem claims_of_level_rare_copies_flag :
    claimsOf ["level", "7", "rare", "have", "3", "pve", "round"] =
        .ok [⟨⟨.pve, .switch true, "PvE round"⟩, [5, 6]⟩, ⟨⟨.level, .number 7, "Level 7"⟩, [0, 1]⟩,
          ⟨⟨.copies, .number 3, "Own 3"⟩, [3, 4]⟩, ⟨⟨.rarity, .word "rare", "rare"⟩, [2]⟩] ∧
      [(⟨⟨.pve, .switch true, "PvE round"⟩, [5, 6]⟩ : Claim), ⟨⟨.level, .number 7, "Level 7"⟩, [0, 1]⟩,
          ⟨⟨.copies, .number 3, "Own 3"⟩, [3, 4]⟩, ⟨⟨.rarity, .word "rare", "rare"⟩, [2]⟩].Pairwise
          (fun a b => ∀ p ∈ a.positions, p ∉ b.positions) ∧
        (∀ c ∈ [(⟨⟨.pve, .switch true, "PvE round"⟩, [5, 6]⟩ : Claim),
            ⟨⟨.level, .number 7, "Level 7"⟩, [0, 1]⟩, ⟨⟨.copies, .number 3, "Own 3"⟩, [3, 4]⟩,
            ⟨⟨.rarity, .word "rare", "rare"⟩, [2]⟩],
          c.positions.Nodup ∧ ∀ p ∈ c.positions, p < 7) ∧
        ∀ c ∈ [(⟨⟨.pve, .switch true, "PvE round"⟩, [5, 6]⟩ : Claim),
            ⟨⟨.level, .number 7, "Level 7"⟩, [0, 1]⟩, ⟨⟨.copies, .number 3, "Own 3"⟩, [3, 4]⟩,
            ⟨⟨.rarity, .word "rare", "rare"⟩, [2]⟩],
          Licenses ["level", "7", "rare", "have", "3", "pve", "round"] c.positions c.command :=
  ⟨rfl, claims_are_disjoint_licensed_chunks ["level", "7", "rare", "have", "3", "pve", "round"] _ rfl⟩

end VoiceCalc
