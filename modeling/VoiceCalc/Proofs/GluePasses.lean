-- Each pass of the chart, read on a glued chart. Every pass is put in the normal form of
-- `Chart.stepBy`: its hit at a position of the glued chart is the left side's hit up to the end of
-- the separator, and the right side's hit moved past it. The frame lemma then says that the pass
-- acts on each side as it would alone.
import VoiceCalc.Proofs.Glue

namespace VoiceCalc

open Vocabulary

namespace Chart

variable {sep : List String} {a b x : Chart}

/-! ## Switches -/

/-- Where the switch `t` is set: a free keyword with a switch word beside it. -/
def toggleHit (ch : Chart) (t : Toggle) (i : Nat) : Option Claim :=
  if ch.freeIn i t.keywords then
    (ch.switchBeside i).map fun (on, j) => ⟨⟨t.kind, .switch on, t.feedback on⟩, [i, j]⟩
  else none

theorem readToggle_eq_stepBy (ch : Chart) (t : Toggle) :
    ch.stepBy (fun i => pure (ch.toggleHit t i)) = .ok (ch.readToggle t) := by
  rw [stepBy_pure]
  have hmap : ch.positions.findSome? (ch.toggleHit t) =
      (ch.positions.findSome? fun i => if ch.freeIn i t.keywords then
        (ch.switchBeside i).map fun (on, j) => (i, j, on) else none).map
        fun (i, j, on) => (⟨⟨t.kind, .switch on, t.feedback on⟩, [i, j]⟩ : Claim) := by
    rw [List.map_findSome?]
    refine findSome?_congr fun i _ => ?_
    simp only [toggleHit, Function.comp_apply]
    split <;> simp [Option.map_map, Function.comp_def]
  rw [hmap]
  unfold readToggle
  dsimp only
  cases (ch.positions.findSome? fun i => if ch.freeIn i t.keywords then
    (ch.switchBeside i).map fun (on, j) => (i, j, on) else none) <;> rfl

theorem words_of_toggle : ∀ t ∈ toggles, ∀ w ∈ t.keywords, w ∈ Vocabulary.words := by decide

theorem words_of_onWords : ∀ w ∈ onWords, w ∈ Vocabulary.words := by decide

theorem words_of_offWords : ∀ w ∈ offWords, w ∈ Vocabulary.words := by decide

theorem Glues.switchBeside_left (h : Glues sep a b x) (hs : Separator sep) {i : Nat}
    (hi : i < a.tokens.length) : x.switchBeside i = a.switchBeside i := by
  unfold switchBeside
  refine findSome?_congr fun j hj => ?_
  have hj' : j < a.tokens.length + sep.length := by
    rcases List.mem_append.1 hj with hb | hb
    · have := mem_before.1 hb
      omega
    · have := List.mem_singleton.1 hb
      have := hs.1
      omega
  rw [h.freeIn_left hs words_of_onWords hj', h.freeIn_left hs words_of_offWords hj']

theorem Glues.switchBeside_right (h : Glues sep a b x) (hs : Separator sep) (ha : a.Sound)
    (i : Nat) : x.switchBeside (a.tokens.length + sep.length + i) =
      (b.switchBeside i).map fun (on, j) => (on, a.tokens.length + sep.length + j) := by
  obtain ⟨d, hd, hdm⟩ := before_add
    (by have := hs.1; omega : 1 ≤ a.tokens.length + sep.length) i
  unfold switchBeside
  rw [hd, List.append_assoc, findSome?_append_dead, List.map_findSome?]
  · have hshift : [a.tokens.length + sep.length + i + 1] =
        [i + 1].map (a.tokens.length + sep.length + ·) := by simp; omega
    rw [hshift, ← List.map_append, List.findSome?_map]
    refine findSome?_congr fun j _ => ?_
    simp only [Function.comp_apply, h.freeIn_right ha]
    split <;> [rfl; split <;> rfl]
  · intro j hj
    obtain ⟨hl, hr⟩ := hdm j hj
    rw [h.freeIn_sep hs words_of_onWords (by have := hs.1; omega) hr,
      h.freeIn_sep hs words_of_offWords (by have := hs.1; omega) hr]
    rfl

theorem Glues.toggleHit_left (h : Glues sep a b x) (hs : Separator sep) {t : Toggle}
    (ht : t ∈ toggles) {i : Nat} (hi : i < a.tokens.length + sep.length) :
    x.toggleHit t i = a.toggleHit t i := by
  unfold toggleHit
  rw [h.freeIn_left hs (words_of_toggle t ht) hi]
  split
  · rename_i hf
    rw [h.switchBeside_left hs (free_iff.1 (freeIn_iff.1 hf).1).1]
  · rfl

theorem toggleHit_outside {ch : Chart} {t : Toggle} {i : Nat} (hi : ch.tokens.length ≤ i) :
    ch.toggleHit t i = none := by
  simp [toggleHit, freeIn_outside hi]

theorem Glues.toggleHit_right (h : Glues sep a b x) (hs : Separator sep) (ha : a.Sound)
    (t : Toggle) (i : Nat) : x.toggleHit t (a.tokens.length + sep.length + i) =
      (b.toggleHit t i).map (Claim.shift (a.tokens.length + sep.length)) := by
  unfold toggleHit
  rw [h.freeIn_right ha, h.switchBeside_right hs ha]
  split
  · simp only [Option.map_map]
    congr 1
  · rfl

/-- The switch pass on a glued chart sets the switch on the side that has it. -/
theorem Glues.readToggle (h : Glues sep a b x) (hs : Separator sep) (ha : a.Sound) {t : Toggle}
    (ht : t ∈ toggles) (hq : a.readToggle t = a ∨ b.readToggle t = b) :
    Glues sep (a.readToggle t) (b.readToggle t) (x.readToggle t) := by
  obtain ⟨x', hx, hg⟩ := h.stepBy (fun i => pure (x.toggleHit t i))
    (fun i => pure (a.toggleHit t i)) (fun i => pure (b.toggleHit t i))
    (fun i hi => by rw [h.toggleHit_left hs ht hi])
    (fun i hi => by rw [toggleHit_outside hi]; rfl)
    (fun i => by rw [h.toggleHit_right hs ha]; rfl)
    (readToggle_eq_stepBy a t) (readToggle_eq_stepBy b t) hq
  rw [readToggle_eq_stepBy, Except.ok.injEq] at hx
  exact hx ▸ hg

/-! ## Flags -/

/-- The companion word of a flag keyword at `i`: after it, else before it. -/
def companionOf (ch : Chart) (f : Flag) (i : Nat) : Option Nat :=
  ([i + 1] ++ before i).find? fun j => ch.freeIn j f.companions

/-- Where the flag `f` is set: its free keyword, with its companion if there is one. -/
def flagHit (ch : Chart) (f : Flag) (i : Nat) : Option Claim :=
  if ch.token i == f.keyword && ch.free i then
    some ⟨⟨f.kind, .switch true, f.feedback⟩, i :: (ch.companionOf f i).toList⟩
  else none

theorem readFlag_eq_stepBy {ch : Chart} {f : Flag} (hk : ch.has f.kind = false) :
    ch.stepBy (fun i => pure (ch.flagHit f i)) = .ok (ch.readFlag f) := by
  unfold flagHit
  rw [stepBy_find ch (fun i => ch.token i == f.keyword && ch.free i)
    (fun i => ⟨⟨f.kind, .switch true, f.feedback⟩, i :: (ch.companionOf f i).toList⟩)]
  simp only [readFlag, hk, Bool.false_eq_true, if_false, companionOf]
  cases ch.positions.find? fun i => ch.token i == f.keyword && ch.free i <;> rfl

theorem words_of_flag : ∀ f ∈ flags, f.keyword ∈ Vocabulary.words ∧
    ∀ w ∈ f.companions, w ∈ Vocabulary.words := by decide

theorem Glues.companionOf_left (h : Glues sep a b x) (hs : Separator sep) {f : Flag}
    (hf : f ∈ flags) {i : Nat} (hi : i < a.tokens.length) : x.companionOf f i = a.companionOf f i := by
  unfold companionOf
  refine find?_congr fun j hj => ?_
  have hj' : j < a.tokens.length + sep.length := by
    rcases List.mem_append.1 hj with hb | hb
    · have := List.mem_singleton.1 hb
      have := hs.1
      omega
    · have := mem_before.1 hb
      omega
  rw [h.freeIn_left hs (words_of_flag f hf).2 hj']

theorem Glues.companionOf_right (h : Glues sep a b x) (hs : Separator sep) (ha : a.Sound)
    {f : Flag} (hf : f ∈ flags) (i : Nat) : x.companionOf f (a.tokens.length + sep.length + i) =
      (b.companionOf f i).map (a.tokens.length + sep.length + ·) := by
  obtain ⟨d, hd, hdm⟩ := before_add
    (by have := hs.1; omega : 1 ≤ a.tokens.length + sep.length) i
  unfold companionOf
  rw [hd, List.find?_append, find?_append_dead, ← List.find?_append]
  · have hshift : [a.tokens.length + sep.length + i + 1] =
        [i + 1].map (a.tokens.length + sep.length + ·) := by simp; omega
    rw [hshift, ← List.map_append, List.find?_map]
    congr 1
    refine find?_congr fun j _ => ?_
    simp only [Function.comp_apply, h.freeIn_right ha]
  · intro j hj
    obtain ⟨hl, hr⟩ := hdm j hj
    exact h.freeIn_sep hs (words_of_flag f hf).2 (by have := hs.1; omega) hr

theorem Glues.flagHit_left (h : Glues sep a b x) (hs : Separator sep) {f : Flag}
    (hf : f ∈ flags) {i : Nat} (hi : i < a.tokens.length + sep.length) :
    x.flagHit f i = a.flagHit f i := by
  by_cases hl : i < a.tokens.length
  · simp only [flagHit, h.token_left hl, h.free_left hl, h.companionOf_left hs hf hl]
  · have hw := (hs.2 _ (h.token_sep (by omega) hi)).not_mem fun w hw =>
      (List.mem_singleton.1 hw) ▸ (words_of_flag f hf).1
    have hne : (x.token i == f.keyword) = false := by
      simpa using fun he => hw (by simp [he])
    simp [flagHit, hne, free, Nat.not_lt.2 (Nat.le_of_not_lt hl)]

theorem flagHit_outside {ch : Chart} {f : Flag} {i : Nat} (hi : ch.tokens.length ≤ i) :
    ch.flagHit f i = none := by
  simp [flagHit, free, Nat.not_lt.2 hi]

theorem Glues.flagHit_right (h : Glues sep a b x) (hs : Separator sep) (ha : a.Sound) {f : Flag}
    (hf : f ∈ flags) (i : Nat) : x.flagHit f (a.tokens.length + sep.length + i) =
      (b.flagHit f i).map (Claim.shift (a.tokens.length + sep.length)) := by
  unfold flagHit
  rw [h.token_right, h.free_right ha, h.companionOf_right hs ha hf]
  split
  · cases b.companionOf f i <;> rfl
  · rfl

/-- The flag pass on a glued chart sets the flag on the side that has it, unless either side has
set it already. -/
theorem Glues.readFlag (h : Glues sep a b x) (hs : Separator sep) (ha : a.Sound) {f : Flag}
    (hf : f ∈ flags) (hq : a.readFlag f = a ∨ b.readFlag f = b)
    (hga : a.has f.kind = true → b.readFlag f = b) (hgb : b.has f.kind = true → a.readFlag f = a) :
    Glues sep (a.readFlag f) (b.readFlag f) (x.readFlag f) := by
  refine h.guarded (fun ch (hk : ch.has f.kind = true) =>
    (by simp [Chart.readFlag, hk] : ch.readFlag f = ch)) (fun hka hkb hkx => ?_) hga hgb
  obtain ⟨x', hx, hg⟩ := h.stepBy (fun i => pure (x.flagHit f i))
    (fun i => pure (a.flagHit f i)) (fun i => pure (b.flagHit f i))
    (fun i hi => by rw [h.flagHit_left hs hf hi])
    (fun i hi => by rw [flagHit_outside hi]; rfl)
    (fun i => by rw [h.flagHit_right hs ha hf]; rfl)
    (readFlag_eq_stepBy hka) (readFlag_eq_stepBy hkb) hq
  rw [readFlag_eq_stepBy hkx, Except.ok.injEq] at hx
  exact hx ▸ hg

/-! ## Questions -/

/-- Where the question `q` is asked: three free words in a row that fill its slots. -/
def questionHit (ch : Chart) (q : Question) (i : Nat) : Option Claim :=
  if ch.asks q i then some ⟨⟨q.kind, .none, q.feedback⟩, [i, i + 1, i + 2]⟩ else none

theorem asks_of_le {ch : Chart} {q : Question} {i : Nat} (hi : ch.tokens.length ≤ i + 2) :
    ch.asks q i = false := by
  simp [asks, freeIn_outside hi]

theorem readQuestion_eq_stepBy {ch : Chart} {q : Question} (hk : ch.has q.kind = false) :
    ch.stepBy (fun i => pure (ch.questionHit q i)) = .ok (ch.readQuestion q) := by
  unfold questionHit
  rw [stepBy_find ch (ch.asks q) (fun i => ⟨⟨q.kind, .none, q.feedback⟩, [i, i + 1, i + 2]⟩),
    positions, find?_range_of_le (Nat.sub_le _ 2) fun i hi => asks_of_le (by omega)]
  simp only [readQuestion, hk, Bool.false_eq_true, if_false]
  cases (List.range (ch.tokens.length - 2)).find? (ch.asks q) <;> rfl

theorem words_of_question : ∀ q ∈ questions, (∀ w ∈ q.first, w ∈ Vocabulary.words) ∧
    (∀ w ∈ q.second, w ∈ Vocabulary.words) ∧ ∀ w ∈ q.third, w ∈ Vocabulary.words := by decide

theorem Glues.asks_left (h : Glues sep a b x) (hs : Separator sep) {q : Question}
    (hq : q ∈ questions) {i : Nat} (hi : i < a.tokens.length + sep.length) :
    x.asks q i = a.asks q i := by
  obtain ⟨h1, h2, h3⟩ := words_of_question q hq
  by_cases hl : i < a.tokens.length
  · have := hs.1
    simp only [asks, h.freeIn_left hs h1 hi, h.freeIn_left hs h2 (by omega : i + 1 < _),
      h.freeIn_left hs h3 (by omega : i + 2 < _)]
  · simp [asks, h.freeIn_sep hs h1 (by omega) hi, freeIn_outside (by omega : a.tokens.length ≤ i)]

theorem Glues.asks_right (h : Glues sep a b x) (ha : a.Sound) (q : Question) (i : Nat) :
    x.asks q (a.tokens.length + sep.length + i) = b.asks q i := by
  unfold asks
  rw [Nat.add_assoc _ i 1, Nat.add_assoc _ i 2, h.freeIn_right ha, h.freeIn_right ha,
    h.freeIn_right ha]

/-- The question pass on a glued chart reads the question on the side that asks it, unless either
side has asked already. -/
theorem Glues.readQuestion (h : Glues sep a b x) (hs : Separator sep) (ha : a.Sound)
    {q : Question} (hqs : q ∈ questions) (hq : a.readQuestion q = a ∨ b.readQuestion q = b)
    (hga : a.has q.kind = true → b.readQuestion q = b)
    (hgb : b.has q.kind = true → a.readQuestion q = a) :
    Glues sep (a.readQuestion q) (b.readQuestion q) (x.readQuestion q) := by
  refine h.guarded (fun ch (hk : ch.has q.kind = true) =>
    (by simp [Chart.readQuestion, hk] : ch.readQuestion q = ch)) (fun hka hkb hkx => ?_) hga hgb
  obtain ⟨x', hx, hg⟩ := h.stepBy (fun i => pure (x.questionHit q i))
    (fun i => pure (a.questionHit q i)) (fun i => pure (b.questionHit q i))
    (fun i hi => by simp only [questionHit, h.asks_left hs hqs hi])
    (fun i hi => by simp only [questionHit, asks_of_le (by omega : a.tokens.length ≤ i + 2)]; rfl)
    (fun i => by
      simp only [questionHit, h.asks_right ha]
      split <;> simp [Claim.shift, Nat.add_assoc])
    (readQuestion_eq_stepBy hka) (readQuestion_eq_stepBy hkb) hq
  rw [readQuestion_eq_stepBy hkx, Except.ok.injEq] at hx
  exact hx ▸ hg

/-! ## Numbers beside their keywords -/

theorem words_of_field : ∀ f ∈ fields, ∀ w ∈ f.keywords, w ∈ Vocabulary.words := by decide

theorem Glues.numberNear_left (h : Glues sep a b x) (hs : Separator sep) {i : Nat}
    (hi : i < a.tokens.length) : x.numberNear i = a.numberNear i := by
  unfold numberNear
  refine findSomeM?_congr fun j hj => ?_
  have hj' : j < a.tokens.length + sep.length := by
    have := hs.1
    rcases List.mem_append.1 hj with hb | hb
    · simp only [List.mem_cons, List.not_mem_nil, or_false] at hb
      omega
    · have := mem_twoBefore hb
      omega
  rw [h.numberAt_left hs hj']

theorem Glues.numberNear_right (h : Glues sep a b x) (hs : Separator sep) (ha : a.Sound)
    (i : Nat) : x.numberNear (a.tokens.length + sep.length + i) =
      Option.map (fun p : Nat × Nat => (a.tokens.length + sep.length + p.1, p.2)) <$>
        b.numberNear i := by
  obtain ⟨d, hd, hdm⟩ := twoBefore_add
    (by have := hs.1; omega : 2 ≤ a.tokens.length + sep.length) i
  unfold numberNear
  rw [hd, ← List.append_assoc, findSomeM?_append_of_none]
  · have hshift : [a.tokens.length + sep.length + i + 1, a.tokens.length + sep.length + i + 2] =
        [i + 1, i + 2].map (a.tokens.length + sep.length + ·) := by simp; omega
    rw [hshift, ← List.map_append, findSomeM?_map, ← findSomeM?_map_result]
    refine findSomeM?_congr fun j _ => ?_
    simp only [Function.comp_apply, h.numberAt_right ha]
    cases b.numberAt j with
    | error e => rfl
    | ok r => cases r <;> rfl
  · intro j hj
    obtain ⟨hl, hr⟩ := hdm j hj
    rw [h.numberAt_sep hs (by have := hs.1; omega) hr]
    rfl

theorem Glues.fieldAt_left (h : Glues sep a b x) (hs : Separator sep) {f : Field}
    (hf : f ∈ fields) {i : Nat} (hi : i < a.tokens.length + sep.length) :
    x.fieldAt f i = a.fieldAt f i := by
  by_cases hl : i < a.tokens.length
  · simp only [fieldAt, h.freeIn_left hs (words_of_field f hf) hi, h.numberNear_left hs hl]
  · simp only [fieldAt, h.freeIn_sep hs (words_of_field f hf) (by omega) hi,
      freeIn_outside (by omega : a.tokens.length ≤ i), Bool.false_eq_true, if_false]

theorem Glues.fieldAt_right (h : Glues sep a b x) (hs : Separator sep) (ha : a.Sound)
    (f : Field) (i : Nat) : x.fieldAt f (a.tokens.length + sep.length + i) =
      Option.map (fun p : Nat × Nat => (a.tokens.length + sep.length + p.1, p.2)) <$>
        b.fieldAt f i := by
  unfold fieldAt
  rw [h.freeIn_right ha, h.numberNear_right hs ha]
  split
  · cases b.numberNear i with
    | error e => rfl
    | ok r =>
      rcases r with _ | ⟨j, n⟩
      · rfl
      · simp only [Functor.map, Except.map, bind, Except.bind, Option.map_some, pure, Except.pure]
        split <;> rfl
  · rfl

/-- Where the field `f` is set: a free keyword with an accepted number near it. -/
def fieldHit (ch : Chart) (f : Field) (i : Nat) : Except TooManyDigits (Option Claim) := do
  return (← ch.fieldAt f i).map fun (j, n) => ⟨⟨f.kind, .number n, f.label n⟩, [i, j]⟩

theorem readField_eq_stepBy (ch : Chart) (f : Field) :
    ch.stepBy (ch.fieldHit f) = ch.readField f := by
  have hmap : ch.positions.findSomeM? (ch.fieldHit f) =
      Option.map (fun (i, j, n) => (⟨⟨f.kind, .number n, f.label n⟩, [i, j]⟩ : Claim)) <$>
        ch.positions.findSomeM? fun i => do
          return (← ch.fieldAt f i).map fun (j, n) => (i, j, n) := by
    rw [← findSomeM?_map_result]
    refine findSomeM?_congr fun i _ => ?_
    unfold fieldHit
    cases ch.fieldAt f i with
    | error e => rfl
    | ok r => cases r <;> rfl
  unfold stepBy readField
  rw [hmap]
  cases ch.positions.findSomeM? fun i => do
      return (← ch.fieldAt f i).map fun ((j, n) : Nat × Nat) => (i, j, n) with
  | error e => rfl
  | ok r => cases r <;> rfl

theorem fieldHit_outside {ch : Chart} {f : Field} {i : Nat} (hi : ch.tokens.length ≤ i) :
    ch.fieldHit f i = .ok none := by
  simp only [fieldHit, fieldAt, freeIn_outside hi]
  rfl

theorem Glues.readField (h : Glues sep a b x) (hs : Separator sep) (ha : a.Sound) {f : Field}
    (hf : f ∈ fields) {a' b' : Chart} (hA : a.readField f = .ok a') (hB : b.readField f = .ok b')
    (hq : a' = a ∨ b' = b) : ∃ x', x.readField f = .ok x' ∧ Glues sep a' b' x' := by
  rw [← readField_eq_stepBy] at hA hB ⊢
  refine h.stepBy (x.fieldHit f) (a.fieldHit f) (b.fieldHit f)
    (fun i hi => by simp only [fieldHit, h.fieldAt_left hs hf hi])
    (fun i hi => fieldHit_outside hi) (fun i => ?_) hA hB hq
  unfold fieldHit
  rw [h.fieldAt_right hs ha]
  cases b.fieldAt f i with
  | error e => rfl
  | ok r => cases r <;> rfl

/-! ## Rarity and stars -/

/-- Where a rarity is selected: a free rarity word. -/
def rarityHit (ch : Chart) (i : Nat) : Option Claim :=
  if ch.free i then (rarityOf? (ch.token i)).map fun r => ⟨⟨.rarity, .word r, r⟩, [i]⟩ else none

theorem readRarity_eq_stepBy (ch : Chart) :
    ch.stepBy (fun i => pure (ch.rarityHit i)) = .ok ch.readRarity := by
  rw [stepBy_pure]
  have hmap : ch.positions.findSome? ch.rarityHit =
      (ch.positions.findSome? fun i =>
        if ch.free i then (rarityOf? (ch.token i)).map fun r => (i, r) else none).map
        fun (i, r) => (⟨⟨.rarity, .word r, r⟩, [i]⟩ : Claim) := by
    rw [List.map_findSome?]
    refine findSome?_congr fun i _ => ?_
    simp only [rarityHit, Function.comp_apply]
    split <;> simp [Option.map_map, Function.comp_def]
  rw [hmap]
  unfold readRarity
  dsimp only
  cases (ch.positions.findSome? fun i =>
    if ch.free i then (rarityOf? (ch.token i)).map fun r => (i, r) else none) <;> rfl

theorem mem_rarity_words {w r : String} (h : rarityOf? w = some r) : w ∈ rarities.map (·.1) := by
  obtain ⟨p, hp, -⟩ := Option.map_eq_some_iff.1 h
  have hw : p.1 = w := by simpa using List.find?_some hp
  exact List.mem_map.2 ⟨p, List.mem_of_find?_eq_some hp, hw⟩

theorem words_of_rarity {w r : String} (h : rarityOf? w = some r) : w ∈ Vocabulary.words :=
  (by decide : ∀ w ∈ rarities.map (·.1), w ∈ Vocabulary.words) w (mem_rarity_words h)

theorem Glues.rarityHit_left (h : Glues sep a b x) (hs : Separator sep) {i : Nat}
    (hi : i < a.tokens.length + sep.length) : x.rarityHit i = a.rarityHit i := by
  by_cases hl : i < a.tokens.length
  · simp only [rarityHit, h.free_left hl, h.token_left hl]
  · have hr : rarityOf? (x.token i) = none := by
      cases hr : rarityOf? (x.token i) with
      | none => rfl
      | some r => exact absurd (words_of_rarity hr) (hs.2 _ (h.token_sep (by omega) hi)).1
    simp [rarityHit, hr, free, Nat.not_lt.2 (Nat.le_of_not_lt hl)]

theorem rarityHit_outside {ch : Chart} {i : Nat} (hi : ch.tokens.length ≤ i) :
    ch.rarityHit i = none := by
  simp [rarityHit, free, Nat.not_lt.2 hi]

theorem Glues.rarityHit_right (h : Glues sep a b x) (ha : a.Sound) (i : Nat) :
    x.rarityHit (a.tokens.length + sep.length + i) =
      (b.rarityHit i).map (Claim.shift (a.tokens.length + sep.length)) := by
  unfold rarityHit
  rw [h.free_right ha, h.token_right]
  split
  · cases rarityOf? (b.token i) <;> rfl
  · rfl

/-- The rarity pass on a glued chart selects the rarity on the side that has a rarity word. -/
theorem Glues.readRarity (h : Glues sep a b x) (hs : Separator sep) (ha : a.Sound)
    (hq : a.readRarity = a ∨ b.readRarity = b) :
    Glues sep a.readRarity b.readRarity x.readRarity := by
  obtain ⟨x', hx, hg⟩ := h.stepBy (fun i => pure (x.rarityHit i))
    (fun i => pure (a.rarityHit i)) (fun i => pure (b.rarityHit i))
    (fun i hi => by rw [h.rarityHit_left hs hi])
    (fun i hi => by rw [rarityHit_outside hi]; rfl)
    (fun i => by rw [h.rarityHit_right ha]; rfl)
    (readRarity_eq_stepBy a) (readRarity_eq_stepBy b) hq
  rw [readRarity_eq_stepBy, Except.ok.injEq] at hx
  exact hx ▸ hg

/-- Where the evolution stage is selected: a free 2 or 3 with a free star word after it, before
the last position. -/
def stageHit (ch : Chart) (i : Nat) : Except TooManyDigits (Option Claim) :=
  if i + 1 < ch.tokens.length then
    (Option.map fun (s : String × String) => ⟨⟨.evolution, .word s.1, s.2⟩, [i, i + 1]⟩) <$>
      ch.stageAt i
  else pure none

theorem readStage_eq_stepBy (ch : Chart) : ch.stepBy ch.stageHit = ch.readStage := by
  have hmap : ch.positions.findSomeM? ch.stageHit =
      Option.map (fun ((i, value, shown) : Nat × String × String) =>
        (⟨⟨.evolution, .word value, shown⟩, [i, i + 1]⟩ : Claim)) <$>
        (List.range (ch.tokens.length - 1)).findSomeM? fun i => do
          return (← ch.stageAt i).map fun (s : String × String) => (i, s) := by
    rw [positions, findSomeM?_range_of_le (Nat.sub_le _ 1) fun i hi => by
      simp only [stageHit, show ¬(i + 1 < ch.tokens.length) by omega, if_false]; rfl,
      ← findSomeM?_map_result]
    refine findSomeM?_congr fun i hi => ?_
    simp only [stageHit, show i + 1 < ch.tokens.length by have := List.mem_range.1 hi; omega,
      if_true]
    cases ch.stageAt i with
    | error e => rfl
    | ok r => cases r <;> rfl
  unfold stepBy readStage
  rw [hmap]
  cases (List.range (ch.tokens.length - 1)).findSomeM? fun i => do
      return (← ch.stageAt i).map fun (s : String × String) => (i, s) with
  | error e => rfl
  | ok r => cases r <;> rfl

theorem words_of_starWords : ∀ w ∈ starWords, w ∈ Vocabulary.words := by decide

theorem stageAt_of_numberAt {ch : Chart} {i : Nat} (h : ch.numberAt i = .ok none) :
    ch.stageAt i = .ok none := by
  simp only [stageAt, h]
  rfl

theorem stageAt_of_not_star {ch : Chart} {i : Nat} {r : Option Nat} (h : ch.numberAt i = .ok r)
    (hs : ch.freeIn (i + 1) starWords = false) : ch.stageAt i = .ok none := by
  simp only [stageAt, h, hs, bind, Except.bind]
  split <;> rfl

/-- A stage hit never reaches past the left side, as long as the left side's numbers all read. -/
theorem Glues.stageHit_left (h : Glues sep a b x) (hs : Separator sep)
    (hnum : ∀ j, ∃ r, a.numberAt j = .ok r) {i : Nat} (hi : i < a.tokens.length + sep.length) :
    x.stageHit i = a.stageHit i := by
  have hlen := h.length
  by_cases hl : i + 1 < a.tokens.length
  · have hst : x.stageAt i = a.stageAt i := by
      simp only [stageAt, h.numberAt_left hs (by omega : i < _),
        h.freeIn_left hs words_of_starWords (by omega : i + 1 < _)]
    simp only [stageHit, hst, hl, show i + 1 < x.tokens.length by omega, if_true]
  · have hx : x.stageAt i = .ok none := by
      by_cases hla : i < a.tokens.length
      · obtain ⟨r, hr⟩ := hnum i
        exact stageAt_of_not_star (by rw [h.numberAt_left hs (by omega)]; exact hr)
          (h.freeIn_sep hs words_of_starWords (by omega) (by have := hs.1; omega))
      · exact stageAt_of_numberAt (h.numberAt_sep hs (by omega) hi)
    simp only [stageHit, hx, hl, if_false]
    split <;> rfl

theorem stageHit_outside {ch : Chart} {i : Nat} (hi : ch.tokens.length ≤ i) :
    ch.stageHit i = .ok none := by
  simp only [stageHit, show ¬(i + 1 < ch.tokens.length) by omega, if_false]
  rfl

theorem Glues.stageHit_right (h : Glues sep a b x) (ha : a.Sound) (i : Nat) :
    x.stageHit (a.tokens.length + sep.length + i) =
      Option.map (Claim.shift (a.tokens.length + sep.length)) <$> b.stageHit i := by
  have hst : x.stageAt (a.tokens.length + sep.length + i) = b.stageAt i := by
    unfold stageAt
    rw [Nat.add_assoc _ i 1, h.numberAt_right ha, h.freeIn_right ha]
  unfold stageHit
  by_cases hb : i + 1 < b.tokens.length
  · rw [if_pos (by rw [h.length]; omega), if_pos hb, hst]
    cases b.stageAt i with
    | error e => rfl
    | ok r => cases r <;> rfl
  · rw [if_neg (by rw [h.length]; omega), if_neg hb]
    rfl

/-- The stage pass on a glued chart selects the stage on the side that has one. -/
theorem Glues.readStage (h : Glues sep a b x) (hs : Separator sep) (ha : a.Sound)
    (hnum : ∀ j, ∃ r, a.numberAt j = .ok r) {a' b' : Chart} (hA : a.readStage = .ok a')
    (hB : b.readStage = .ok b') (hq : a' = a ∨ b' = b) :
    ∃ x', x.readStage = .ok x' ∧ Glues sep a' b' x' := by
  rw [← readStage_eq_stepBy] at hA hB ⊢
  exact h.stepBy x.stageHit a.stageHit b.stageHit (fun i hi => h.stageHit_left hs hnum hi)
    (fun i hi => stageHit_outside hi) (h.stageHit_right ha) hA hB hq

/-! ## Phrases and keywords -/

theorem words_of_phrase : ∀ p ∈ phrases, ∀ w ∈ p.words, w ∈ Vocabulary.words := by decide

theorem phrases_ne_nil : ∀ p ∈ phrases, p.words ≠ [] := by decide

/-- Where the phrase `p` stands on free tokens. -/
def phraseHit (ch : Chart) (p : Phrase) (i : Nat) : Option Claim :=
  if ch.phraseAt p i then some ⟨⟨p.kind, p.value, p.feedback⟩, List.range' i p.words.length⟩
  else none

theorem phraseAt_of_lt {ch : Chart} {p : Phrase} {i : Nat} (hp : p.words ≠ [])
    (hi : ch.tokens.length < i + p.words.length) : ch.phraseAt p i = false := by
  refine Bool.eq_false_iff.2 fun hx => ?_
  simp only [phraseAt, Bool.and_eq_true, beq_iff_eq] at hx
  have hlen := congrArg List.length hx.1
  have hn := List.length_pos_iff.2 hp
  simp only [List.length_take, List.length_drop] at hlen
  omega

theorem readPhrase_eq_stepBy {ch : Chart} {p : Phrase} (hp : p.words ≠ [])
    (hk : ch.has p.kind = false) :
    ch.stepBy (fun i => pure (ch.phraseHit p i)) = .ok (ch.readPhrase p) := by
  have hn : 0 < p.words.length := List.length_pos_iff.2 hp
  unfold phraseHit
  rw [stepBy_find ch (ch.phraseAt p)
    (fun i => ⟨⟨p.kind, p.value, p.feedback⟩, List.range' i p.words.length⟩), positions,
    find?_range_of_le (by omega : ch.tokens.length + 1 - p.words.length ≤ ch.tokens.length)
      fun i hi => phraseAt_of_lt hp (by omega)]
  simp only [readPhrase, hk, Bool.false_eq_true, if_false]
  cases (List.range (ch.tokens.length + 1 - p.words.length)).find? (ch.phraseAt p) <;> rfl

theorem getElem?_of_take_drop {l w : List String} {i k : Nat} (h : (l.drop i).take w.length = w)
    (hk : k < w.length) : l[i + k]? = w[k]? := by
  conv_rhs => rw [← h]
  rw [List.getElem?_take, if_pos hk, List.getElem?_drop]

/-- A phrase read up to the end of the separator stands on the left side: the words of the
separator are no phrase words. -/
theorem Glues.phraseAt_left (h : Glues sep a b x) (hs : Separator sep) {p : Phrase}
    (hp : p ∈ phrases) {i : Nat} (hi : i < a.tokens.length + sep.length) :
    x.phraseAt p i = a.phraseAt p i := by
  by_cases hfit : i + p.words.length ≤ a.tokens.length
  · have htake : (x.tokens.drop i).take p.words.length = (a.tokens.drop i).take p.words.length := by
      rw [h.tokens, List.append_assoc, List.drop_append_of_le_length (by omega),
        List.take_append_of_le_length (by simp only [List.length_drop]; omega)]
    have hall : (List.range' i p.words.length).all x.free =
        (List.range' i p.words.length).all a.free := by
      refine Bool.eq_iff_iff.2 ?_
      simp only [List.all_eq_true]
      refine forall₂_congr fun j hj => ?_
      obtain ⟨k, hk, rfl⟩ := List.mem_range'.1 hj
      rw [h.free_left (by omega)]
    simp only [phraseAt, htake, hall]
  · have hne := phrases_ne_nil p hp
    have hn : 0 < p.words.length := List.length_pos_iff.2 hne
    have ha : a.phraseAt p i = false := phraseAt_of_lt hne (by omega)
    rw [ha]
    refine Bool.eq_false_iff.2 fun hx => ?_
    simp only [phraseAt, Bool.and_eq_true, beq_iff_eq] at hx
    have hk : a.tokens.length - i < p.words.length := by omega
    have hsep : x.token (i + (a.tokens.length - i)) ∈ sep :=
      h.token_sep (by omega) (by have := hs.1; omega)
    have hw : x.token (i + (a.tokens.length - i)) ∈ p.words := by
      rw [token, List.getD_eq_getElem?_getD, getElem?_of_take_drop hx.1 hk,
        List.getElem?_eq_getElem hk, Option.getD_some]
      exact List.getElem_mem hk
    exact (hs.2 _ hsep).1 (words_of_phrase p hp _ hw)

theorem Glues.drop_right (h : Glues sep a b x) (i : Nat) :
    x.tokens.drop (a.tokens.length + sep.length + i) = b.tokens.drop i := by
  rw [h.tokens, List.drop_append, List.drop_eq_nil_of_le (by simp), List.nil_append]
  congr 1
  simp

theorem Glues.phraseAt_right (h : Glues sep a b x) (ha : a.Sound) (p : Phrase) (i : Nat) :
    x.phraseAt p (a.tokens.length + sep.length + i) = b.phraseAt p i := by
  unfold phraseAt
  rw [h.drop_right, ← List.map_add_range', List.all_map]
  congr 1
  exact List.all_congr rfl fun j => h.free_right ha j

/-- The phrase pass on a glued chart reads the phrase on the side where it stands, unless either
side has its kind already. -/
theorem Glues.readPhrase (h : Glues sep a b x) (hs : Separator sep) (ha : a.Sound)
    {p : Phrase} (hp : p ∈ phrases) (hq : a.readPhrase p = a ∨ b.readPhrase p = b)
    (hga : a.has p.kind = true → b.readPhrase p = b)
    (hgb : b.has p.kind = true → a.readPhrase p = a) :
    Glues sep (a.readPhrase p) (b.readPhrase p) (x.readPhrase p) := by
  refine h.guarded (fun ch (hk : ch.has p.kind = true) =>
    (by simp [Chart.readPhrase, hk] : ch.readPhrase p = ch)) (fun hka hkb hkx => ?_) hga hgb
  have hne := phrases_ne_nil p hp
  obtain ⟨x', hx, hg⟩ := h.stepBy (fun i => pure (x.phraseHit p i))
    (fun i => pure (a.phraseHit p i)) (fun i => pure (b.phraseHit p i))
    (fun i hi => by simp only [phraseHit, h.phraseAt_left hs hp hi])
    (fun i hi => by
      simp only [phraseHit, phraseAt_of_lt hne (by have := List.length_pos_iff.2 hne; omega :
        a.tokens.length < i + p.words.length)]
      rfl)
    (fun i => by
      simp only [phraseHit, h.phraseAt_right ha]
      split <;> simp [Claim.shift, List.map_add_range'])
    (readPhrase_eq_stepBy hne hka) (readPhrase_eq_stepBy hne hkb) hq
  rw [readPhrase_eq_stepBy hne hkx, Except.ok.injEq] at hx
  exact hx ▸ hg

theorem words_of_keyword : ∀ k ∈ keywords, ∀ w ∈ k.words, w ∈ Vocabulary.words := by decide

/-- Where the keyword `k` stands free. -/
def keywordHit (ch : Chart) (k : Keyword) (i : Nat) : Option Claim :=
  if ch.freeIn i k.words then some ⟨⟨k.kind, .none, k.feedback⟩, [i]⟩ else none

theorem readKeyword_eq_stepBy {ch : Chart} {k : Keyword} (hk : ch.has k.kind = false) :
    ch.stepBy (fun i => pure (ch.keywordHit k i)) = .ok (ch.readKeyword k) := by
  unfold keywordHit
  rw [stepBy_find ch (fun i => ch.freeIn i k.words) (fun i => ⟨⟨k.kind, .none, k.feedback⟩, [i]⟩)]
  simp only [readKeyword, hk, Bool.false_eq_true, if_false]
  cases ch.positions.find? (fun i => ch.freeIn i k.words) <;> rfl

/-- The keyword pass on a glued chart reads the keyword on the side where it stands, unless either
side has its kind already. -/
theorem Glues.readKeyword (h : Glues sep a b x) (hs : Separator sep) (ha : a.Sound)
    {k : Keyword} (hk : k ∈ keywords) (hq : a.readKeyword k = a ∨ b.readKeyword k = b)
    (hga : a.has k.kind = true → b.readKeyword k = b)
    (hgb : b.has k.kind = true → a.readKeyword k = a) :
    Glues sep (a.readKeyword k) (b.readKeyword k) (x.readKeyword k) := by
  refine h.guarded (fun ch (hc : ch.has k.kind = true) =>
    (by simp [Chart.readKeyword, hc] : ch.readKeyword k = ch)) (fun hka hkb hkx => ?_) hga hgb
  obtain ⟨x', hx, hg⟩ := h.stepBy (fun i => pure (x.keywordHit k i))
    (fun i => pure (a.keywordHit k i)) (fun i => pure (b.keywordHit k i))
    (fun i hi => by simp only [keywordHit, h.freeIn_left hs (words_of_keyword k hk) hi])
    (fun i hi => by simp only [keywordHit, freeIn_outside hi]; rfl)
    (fun i => by
      simp only [keywordHit, h.freeIn_right ha]
      split <;> rfl)
    (readKeyword_eq_stepBy hka) (readKeyword_eq_stepBy hkb) hq
  rw [readKeyword_eq_stepBy hkx, Except.ok.injEq] at hx
  exact hx ▸ hg

end Chart

end VoiceCalc
