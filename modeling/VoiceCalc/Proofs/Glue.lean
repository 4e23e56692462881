-- Two token lists read side by side. A pass looks at most two places away from the word it
-- starts at, so when two or more words that no pass reads stand between the lists, no pass
-- reaches from one into the other. `Chart.Glues` says that a chart holds two charts with such a
-- separator between them, and each pass keeps it: the pass acts on each side as it would alone,
-- as long as at most one side has something for it.
import VoiceCalc.Proofs.Chunks

namespace VoiceCalc

open Vocabulary

/-! ## Words that no pass reads -/

/-- Every word that some pass looks for. -/
def Vocabulary.words : List String :=
  toggles.flatMap (·.keywords) ++ onWords ++ offWords ++
    flags.flatMap (fun f => f.keyword :: f.companions) ++
    questions.flatMap (fun q => q.first ++ q.second ++ q.third) ++ fields.flatMap (·.keywords) ++
    rarities.map (·.1) ++ starWords ++ phrases.flatMap (·.words) ++ keywords.flatMap (·.words)

/-- A word that no pass reads: no word of the vocabulary, and no number. -/
def Filler (w : String) : Prop := w ∉ Vocabulary.words ∧ tokenNumber? w = .ok none

/-- What may stand between two token lists: two or more words that no pass reads. -/
def Separator (sep : List String) : Prop := 2 ≤ sep.length ∧ ∀ w ∈ sep, Filler w

theorem Filler.not_mem {w : String} {ws : List String} (h : Filler w)
    (hws : ∀ x ∈ ws, x ∈ Vocabulary.words) : w ∉ ws :=
  fun hw => h.1 (hws w hw)

/-! ## Claims moved along -/

/-- The claim with its positions moved on by `m`. -/
def Claim.shift (m : Nat) (c : Claim) : Claim := ⟨c.command, c.positions.map (m + ·)⟩

@[simp] theorem Claim.command_shift (m : Nat) (c : Claim) : (c.shift m).command = c.command := rfl

@[simp] theorem Claim.positions_shift (m : Nat) (c : Claim) :
    (c.shift m).positions = c.positions.map (m + ·) := rfl

namespace Chart

/-! ## Two charts side by side -/

/-- The chart `x` holds `a`'s tokens, the separator and `b`'s tokens, with `a`'s claims and `b`'s
claims moved past the separator, in some order, and ends as `b` ends. -/
structure Glues (sep : List String) (a b x : Chart) : Prop where
  tokens : x.tokens = a.tokens ++ sep ++ b.tokens
  claims : x.claims.Perm (a.claims ++ b.claims.map (Claim.shift (a.tokens.length + sep.length)))
  pastEnd : x.pastEnd = b.pastEnd

section Glued

variable {sep : List String} {a b x : Chart}

theorem Glues.used_perm (h : Glues sep a b x) :
    x.used.Perm (a.used ++ b.used.map (a.tokens.length + sep.length + ·)) := by
  have hp := h.claims.flatMap_right Claim.positions
  simp only [List.flatMap_append, List.flatMap_map] at hp
  simpa [used, List.map_flatMap, Function.comp_def] using hp

theorem Glues.length (h : Glues sep a b x) :
    x.tokens.length = a.tokens.length + sep.length + b.tokens.length := by
  simp [h.tokens, Nat.add_assoc]

theorem Glues.mem_used (h : Glues sep a b x) {j : Nat} :
    j ∈ x.used ↔ j ∈ a.used ∨ ∃ p ∈ b.used, a.tokens.length + sep.length + p = j := by
  rw [h.used_perm.mem_iff, List.mem_append, List.mem_map]

theorem Glues.token_left (h : Glues sep a b x) {j : Nat} (hj : j < a.tokens.length) :
    x.token j = a.token j := by
  simp only [token, h.tokens, List.append_assoc, List.getD_eq_getElem?_getD,
    List.getElem?_append_left hj, List.getElem?_eq_getElem hj, Option.getD_some]

theorem Glues.token_sep (h : Glues sep a b x) {j : Nat} (hl : a.tokens.length ≤ j)
    (hr : j < a.tokens.length + sep.length) : x.token j ∈ sep := by
  have hs : j - a.tokens.length < sep.length := by omega
  simp only [token, h.tokens, List.append_assoc, List.getD_eq_getElem?_getD,
    List.getElem?_append_right hl, List.getElem?_append_left hs, List.getElem?_eq_getElem hs,
    Option.getD_some]
  exact List.getElem_mem hs

theorem Glues.token_right (h : Glues sep a b x) (j : Nat) :
    x.token (a.tokens.length + sep.length + j) = b.token j := by
  have h1 : a.tokens.length ≤ a.tokens.length + sep.length + j := by omega
  have h2 : sep.length ≤ a.tokens.length + sep.length + j - a.tokens.length := by omega
  simp only [token, h.tokens, h.pastEnd, List.append_assoc, List.getD_eq_getElem?_getD,
    List.getElem?_append_right h1, List.getElem?_append_right h2]
  congr 2
  omega

theorem Glues.free_left (h : Glues sep a b x) {j : Nat} (hj : j < a.tokens.length) :
    x.free j = a.free j := by
  have hfree : (x.free j = true) ↔ (a.free j = true) := by
    rw [free_iff, free_iff, h.mem_used, h.length]
    constructor
    · rintro ⟨-, hn⟩
      exact ⟨hj, fun hu => hn (Or.inl hu)⟩
    · rintro ⟨-, hn⟩
      refine ⟨by omega, ?_⟩
      rintro (hu | ⟨p, -, hp⟩)
      · exact hn hu
      · omega
  exact Bool.eq_iff_iff.2 hfree

theorem Glues.free_right (h : Glues sep a b x) (ha : a.Sound) (j : Nat) :
    x.free (a.tokens.length + sep.length + j) = b.free j := by
  have hfree : (x.free (a.tokens.length + sep.length + j) = true) ↔ (b.free j = true) := by
    rw [free_iff, free_iff, h.mem_used, h.length]
    constructor
    · rintro ⟨hl, hn⟩
      refine ⟨by omega, fun hu => hn (Or.inr ⟨j, hu, rfl⟩)⟩
    · rintro ⟨hl, hn⟩
      refine ⟨by omega, ?_⟩
      rintro (hu | ⟨p, hp, he⟩)
      · have := ha.lt _ hu
        omega
      · have : p = j := by omega
        exact hn (this ▸ hp)
  exact Bool.eq_iff_iff.2 hfree

theorem Glues.freeIn_sep (h : Glues sep a b x) (hs : Separator sep) {j : Nat} {ws : List String}
    (hws : ∀ w ∈ ws, w ∈ Vocabulary.words) (hl : a.tokens.length ≤ j)
    (hr : j < a.tokens.length + sep.length) : x.freeIn j ws = false := by
  have hw := (hs.2 _ (h.token_sep hl hr)).not_mem hws
  simp [freeIn, hw]

theorem Glues.numberAt_sep (h : Glues sep a b x) (hs : Separator sep) {j : Nat}
    (hl : a.tokens.length ≤ j) (hr : j < a.tokens.length + sep.length) :
    x.numberAt j = .ok none := by
  have hw := (hs.2 _ (h.token_sep hl hr)).2
  unfold numberAt
  split
  · exact hw
  · rfl

theorem freeIn_outside {ch : Chart} {j : Nat} {ws : List String} (hj : ch.tokens.length ≤ j) :
    ch.freeIn j ws = false := by
  simp [freeIn, free, Nat.not_lt.2 hj]

theorem numberAt_outside {ch : Chart} {j : Nat} (hj : ch.tokens.length ≤ j) :
    ch.numberAt j = .ok none := by
  simp [numberAt, free, Nat.not_lt.2 hj]

/-- Up to the end of the separator a glued chart looks, to every word test, like its left side. -/
theorem Glues.freeIn_left (h : Glues sep a b x) (hs : Separator sep) {j : Nat} {ws : List String}
    (hws : ∀ w ∈ ws, w ∈ Vocabulary.words) (hj : j < a.tokens.length + sep.length) :
    x.freeIn j ws = a.freeIn j ws := by
  by_cases hl : j < a.tokens.length
  · simp only [freeIn, h.free_left hl, h.token_left hl]
  · rw [h.freeIn_sep hs hws (by omega) hj, freeIn_outside (by omega)]

theorem Glues.freeIn_right (h : Glues sep a b x) (ha : a.Sound) (j : Nat) (ws : List String) :
    x.freeIn (a.tokens.length + sep.length + j) ws = b.freeIn j ws := by
  simp only [freeIn, h.free_right ha, h.token_right]

theorem Glues.numberAt_left (h : Glues sep a b x) (hs : Separator sep) {j : Nat}
    (hj : j < a.tokens.length + sep.length) : x.numberAt j = a.numberAt j := by
  by_cases hl : j < a.tokens.length
  · simp only [numberAt, h.free_left hl, h.token_left hl]
  · rw [h.numberAt_sep hs (by omega) hj, numberAt_outside (by omega)]

theorem Glues.numberAt_right (h : Glues sep a b x) (ha : a.Sound) (j : Nat) :
    x.numberAt (a.tokens.length + sep.length + j) = b.numberAt j := by
  simp only [numberAt, h.free_right ha, h.token_right]

/-! ## A claim on either side -/

theorem Glues.claim_left (h : Glues sep a b x) (c : Command) (ps : List Nat) :
    Glues sep (a.claim c ps) b (x.claim c ps) := by
  refine ⟨h.tokens, ?_, h.pastEnd⟩
  simp only [claims_claim, tokens_claim, List.append_assoc]
  refine (h.claims.append_right _).trans ?_
  rw [List.append_assoc]
  exact List.perm_append_comm.append_left _

theorem Glues.claim_right (h : Glues sep a b x) (c : Command) (ps : List Nat) :
    Glues sep a (b.claim c ps) (x.claim c (ps.map (a.tokens.length + sep.length + ·))) := by
  refine ⟨h.tokens, ?_, h.pastEnd⟩
  simp only [claims_claim, List.map_append, List.map_cons, List.map_nil, ← List.append_assoc]
  exact h.claims.append_right _

end Glued

end Chart

/-! ## Searches over two parts -/

section Search

variable {ε α β γ : Type}

theorem findSomeM?_append (l₁ l₂ : List α) (f : α → Except ε (Option β)) :
    (l₁ ++ l₂).findSomeM? f = (do
      match ← l₁.findSomeM? f with
      | some b => pure (some b)
      | none => l₂.findSomeM? f) := by
  induction l₁ with
  | nil => rfl
  | cons a l ih =>
    simp only [List.cons_append, List.findSomeM?_cons]
    cases f a with
    | error e => rfl
    | ok r =>
      cases r with
      | some b => rfl
      | none => exact ih

theorem findSomeM?_congr {l : List α} {f g : α → Except ε (Option β)}
    (h : ∀ a ∈ l, f a = g a) : l.findSomeM? f = l.findSomeM? g := by
  induction l with
  | nil => rfl
  | cons a l ih =>
    simp only [List.findSomeM?_cons, h a List.mem_cons_self,
      ih fun b hb => h b (List.mem_cons_of_mem a hb)]

theorem findSomeM?_eq_none {l : List α} {f : α → Except ε (Option β)}
    (h : ∀ a ∈ l, f a = .ok none) : l.findSomeM? f = .ok none := by
  induction l with
  | nil => rfl
  | cons a l ih =>
    simp only [List.findSomeM?_cons, h a List.mem_cons_self]
    exact ih fun b hb => h b (List.mem_cons_of_mem a hb)

theorem findSomeM?_append_of_none (l₁ l₂ : List α) {f : α → Except ε (Option β)}
    (h : ∀ a ∈ l₂, f a = .ok none) : (l₁ ++ l₂).findSomeM? f = l₁.findSomeM? f := by
  rw [findSomeM?_append, findSomeM?_eq_none h]
  cases l₁.findSomeM? f with
  | error e => rfl
  | ok r => cases r <;> rfl

theorem findSomeM?_map (l : List α) (g : α → α) (f : α → Except ε (Option β)) :
    (l.map g).findSomeM? f = l.findSomeM? (f ∘ g) := by
  induction l with
  | nil => rfl
  | cons a l ih => simp only [List.map_cons, List.findSomeM?_cons, ih, Function.comp_apply]

theorem findSomeM?_map_result (l : List α) (f : α → Except ε (Option β)) (s : β → γ) :
    l.findSomeM? (fun a => Option.map s <$> f a) = Option.map s <$> l.findSomeM? f := by
  induction l with
  | nil => rfl
  | cons a l ih =>
    simp only [List.findSomeM?_cons]
    cases f a with
    | error e => rfl
    | ok r =>
      cases r with
      | some b => rfl
      | none => exact ih

/-- A search that finds nothing past `n` finds the same in the first `n` positions as in more. -/
theorem findSomeM?_range_of_le {f : Nat → Except ε (Option β)} {n N : Nat} (hn : n ≤ N)
    (hf : ∀ i, n ≤ i → f i = .ok none) : (List.range N).findSomeM? f = (List.range n).findSomeM? f := by
  obtain ⟨k, rfl⟩ := Nat.exists_eq_add_of_le hn
  rw [List.range_add, findSomeM?_append_of_none]
  intro i hi
  obtain ⟨j, -, rfl⟩ := List.mem_map.1 hi
  exact hf _ (Nat.le_add_right n j)

end Search

namespace Chart

/-! ## Passes in normal form -/

/-- A pass in normal form: the first position with a hit makes the claim the hit gives. -/
def stepBy (ch : Chart) (hit : Nat → Except TooManyDigits (Option Claim)) :
    Except TooManyDigits Chart := do
  match ← ch.positions.findSomeM? hit with
  | some c => return ch.claim c.command c.positions
  | none => return ch

theorem stepBy_eq_ok {ch ch' : Chart} {hit : Nat → Except TooManyDigits (Option Claim)}
    (h : ch.stepBy hit = .ok ch') :
    (ch.positions.findSomeM? hit = .ok none ∧ ch' = ch) ∨
      ∃ c, ch.positions.findSomeM? hit = .ok (some c) ∧ ch' = ch.claim c.command c.positions := by
  unfold stepBy at h
  rw [except_bind_eq_ok] at h
  obtain ⟨r, hr, hk⟩ := h
  cases r with
  | none =>
    simp only [pure, Except.pure, Except.ok.injEq] at hk
    exact Or.inl ⟨hr, hk.symm⟩
  | some c =>
    simp only [pure, Except.pure, Except.ok.injEq] at hk
    exact Or.inr ⟨c, hr, hk.symm⟩

variable {sep : List String} {a b x a' b' : Chart}

theorem positions_glue (h : Glues sep a b x) :
    x.positions = List.range (a.tokens.length + sep.length) ++
      (List.range b.tokens.length).map (a.tokens.length + sep.length + ·) := by
  rw [positions, h.length, List.range_add]

/-- A pass in normal form acts on each side of a glued chart as it would alone, when its hits on
the glued chart are those of the left side up to the end of the separator and those of the right
side moved past it, and one side has nothing for it. -/
theorem Glues.stepBy (h : Glues sep a b x)
    (hx hl hr : Nat → Except TooManyDigits (Option Claim))
    (hleft : ∀ i < a.tokens.length + sep.length, hx i = hl i)
    (hout : ∀ i, a.tokens.length ≤ i → hl i = .ok none)
    (hright : ∀ i, hx (a.tokens.length + sep.length + i) =
      Option.map (Claim.shift (a.tokens.length + sep.length)) <$> hr i)
    (hA : a.stepBy hl = .ok a') (hB : b.stepBy hr = .ok b') (hq : a' = a ∨ b' = b) :
    ∃ x', x.stepBy hx = .ok x' ∧ Glues sep a' b' x' := by
  have hfirst : (List.range (a.tokens.length + sep.length)).findSomeM? hx =
      a.positions.findSomeM? hl := by
    rw [findSomeM?_congr fun i hi => hleft i (List.mem_range.1 hi), List.range_add,
      findSomeM?_append_of_none]
    · rfl
    · intro i hi
      obtain ⟨k, -, rfl⟩ := List.mem_map.1 hi
      exact hout _ (by omega)
  have hsecond : ((List.range b.tokens.length).map (a.tokens.length + sep.length + ·)).findSomeM? hx =
      Option.map (Claim.shift (a.tokens.length + sep.length)) <$> b.positions.findSomeM? hr := by
    rw [findSomeM?_map]
    exact (findSomeM?_congr fun i _ => hright i).trans (findSomeM?_map_result _ _ _)
  unfold Chart.stepBy
  rw [positions_glue h, findSomeM?_append, hfirst]
  rcases stepBy_eq_ok hA with ⟨hna, ha'⟩ | ⟨c, hca, ha'⟩
  · rw [hna, ha']
    rcases stepBy_eq_ok hB with ⟨hnb, hb'⟩ | ⟨c, hcb, hb'⟩
    · rw [hb']
      exact ⟨x, by simp [hsecond, hnb, bind, Except.bind, pure, Except.pure, Functor.map,
        Except.map], h⟩
    · rw [hb']
      refine ⟨x.claim c.command (c.positions.map (a.tokens.length + sep.length + ·)), ?_,
        h.claim_right c.command c.positions⟩
      simp [hsecond, hcb, bind, Except.bind, pure, Except.pure, Functor.map, Except.map]
  · have hb' : b' = b := by
      rcases hq with hq | hq
      · have hlen := congrArg (fun ch => ch.claims.length) (ha'.symm.trans hq)
        simp at hlen
      · exact hq
    rw [ha', hb']
    exact ⟨x.claim c.command c.positions, by simp [hca, bind, Except.bind, pure, Except.pure],
      h.claim_left c.command c.positions⟩

theorem stepBy_pure (ch : Chart) (hit : Nat → Option Claim) :
    ch.stepBy (fun i => pure (hit i)) = pure (match ch.positions.findSome? hit with
      | some c => ch.claim c.command c.positions
      | none => ch) := by
  unfold stepBy
  rw [List.findSomeM?_pure]
  cases ch.positions.findSome? hit <;> rfl

/-! ## Searches near a position -/

theorem findSome?_congr {α β : Type} {l : List α} {f g : α → Option β} (h : ∀ a ∈ l, f a = g a) :
    l.findSome? f = l.findSome? g := by
  induction l with
  | nil => rfl
  | cons a l ih =>
    simp only [List.findSome?_cons, h a List.mem_cons_self,
      ih fun b hb => h b (List.mem_cons_of_mem a hb)]

theorem find?_congr {α : Type} {l : List α} {p q : α → Bool} (h : ∀ a ∈ l, p a = q a) :
    l.find? p = l.find? q := by
  induction l with
  | nil => rfl
  | cons a l ih =>
    simp only [List.find?_cons, h a List.mem_cons_self,
      ih fun b hb => h b (List.mem_cons_of_mem a hb)]

theorem find?_append_dead {α : Type} {l d : List α} {p : α → Bool} (h : ∀ a ∈ d, p a = false) :
    (d ++ l).find? p = l.find? p := by
  rw [List.find?_append, List.find?_eq_none.2 fun a ha => by simp [h a ha], Option.none_or]

theorem findSome?_append_dead {α β : Type} {l d : List α} {f : α → Option β}
    (h : ∀ a ∈ d, f a = none) : (d ++ l).findSome? f = l.findSome? f := by
  rw [List.findSome?_append, List.findSome?_eq_none_iff.2 h, Option.none_or]

theorem twoBefore_add_two (n : Nat) : twoBefore (n + 2) = [n + 1, n] := by
  simp [twoBefore, List.range_succ]

/-- The two positions before one past the separator are the two before it on the right side, then
positions of the separator. -/
theorem twoBefore_add {m : Nat} (hm : 2 ≤ m) (i : Nat) :
    ∃ d, twoBefore (m + i) = (twoBefore i).map (m + ·) ++ d ∧ ∀ j ∈ d, m - 2 ≤ j ∧ j < m := by
  obtain ⟨k, rfl⟩ := Nat.exists_eq_add_of_le' hm
  match i with
  | 0 => exact ⟨[k + 1, k], by rw [Nat.add_zero, twoBefore_add_two]; rfl, by simp⟩
  | 1 =>
    refine ⟨[k + 1], ?_, by simp⟩
    rw [show k + 2 + 1 = k + 1 + 2 by omega, twoBefore_add_two]
    simp [twoBefore]
  | n + 2 =>
    refine ⟨[], ?_, by simp⟩
    rw [show k + 2 + (n + 2) = k + n + 2 + 2 by omega, twoBefore_add_two, twoBefore_add_two]
    simp
    omega

/-- Just before a position past the separator stands the position before it on the right side,
or a position of the separator. -/
theorem before_add {m : Nat} (hm : 1 ≤ m) (i : Nat) :
    ∃ d, before (m + i) = d ++ (before i).map (m + ·) ∧ ∀ j ∈ d, m - 1 ≤ j ∧ j < m := by
  cases i with
  | zero => exact ⟨[m - 1], by simp [before]; omega, by simp; omega⟩
  | succ i => exact ⟨[], by simp [before], by simp⟩

/-! ## Passes that look once for their kind -/

theorem Glues.has (h : Glues sep a b x) (k : CommandKind) : x.has k = (a.has k || b.has k) := by
  unfold Chart.has
  rw [h.claims.any_eq, List.any_append, List.any_map]
  rfl

theorem stepBy_find (ch : Chart) (p : Nat → Bool) (mk : Nat → Claim) :
    ch.stepBy (fun i => pure (if p i then some (mk i) else none)) =
      pure (match ch.positions.find? p with
        | some i => ch.claim (mk i).command (mk i).positions
        | none => ch) := by
  rw [stepBy_pure]
  have hmap : ch.positions.findSome? (fun i => if p i then some (mk i) else none) =
      (ch.positions.find? p).map mk := by
    rw [List.find?_eq_findSome?_guard, List.map_findSome?]
    refine findSome?_congr fun i _ => ?_
    simp only [Function.comp_apply, Option.guard]
    split <;> rfl
  rw [hmap]
  cases ch.positions.find? p <;> rfl

/-- A search that finds nothing past `n` finds the same in the first `n` positions as in more. -/
theorem find?_range_of_le {p : Nat → Bool} {n N : Nat} (hn : n ≤ N) (hp : ∀ i, n ≤ i → p i = false) :
    (List.range N).find? p = (List.range n).find? p := by
  obtain ⟨k, rfl⟩ := Nat.exists_eq_add_of_le hn
  have htail : ((List.range k).map (n + ·)).find? p = none := by
    refine List.find?_eq_none.2 fun i hi => ?_
    obtain ⟨j, -, rfl⟩ := List.mem_map.1 hi
    simp [hp _ (Nat.le_add_right n j)]
  rw [List.range_add, List.find?_append, htail, Option.or_none]

/-- A guarded pass acts on each side when the kind is on neither side, and leaves all three
charts alone when it is on one side and the other side has nothing for the pass. -/
theorem Glues.guarded {k : CommandKind} {s : Chart → Chart} (h : Glues sep a b x)
    (hguard : ∀ ch : Chart, ch.has k = true → s ch = ch)
    (hfree : a.has k = false → b.has k = false → x.has k = false →
      Glues sep (s a) (s b) (s x))
    (hga : a.has k = true → s b = b) (hgb : b.has k = true → s a = a) :
    Glues sep (s a) (s b) (s x) := by
  cases hxa : a.has k
  · cases hxb : b.has k
    · exact hfree hxa hxb (by rw [h.has, hxa, hxb]; rfl)
    · have hx : x.has k = true := by rw [h.has, hxa, hxb]; rfl
      rw [hguard x hx, hguard b hxb, hgb hxb]
      exact h
  · have hx : x.has k = true := by rw [h.has, hxa]; rfl
    rw [hguard x hx, hguard a hxa, hga hxa]
    exact h

end Chart

end VoiceCalc
