-- Number words rewritten word by word. A text splits into its words, the maximal runs of word
-- characters, and the single characters between them. Rewriting turns each word spelled like a
-- numeral word, case ignored, into the digits of that word's value and keeps every other
-- character, and a rewritten text rewrites to itself. That holds unless such a word has a dotless
-- i, a long s or a dotted capital I in it: these stand for an i or an s only when case is ignored,
-- so the word's lower-case form is no numeral word and the rewrite fails on it.
import VoiceCalc.Numeral

namespace VoiceCalc

open Text

/-! ## Words and the characters between them -/

/-- A piece of a text: a word, or one character that is no word character. -/
inductive Piece
  | word (w : List Char)
  | other (c : Char)

/-- The pieces split the characters into words, each a maximal run of word characters, and the
characters between the words. -/
inductive Splits : List Char → List Piece → Prop
  | nil : Splits [] []
  | other {c : Char} {cs : List Char} {ps : List Piece} :
      isWordChar c = false → Splits cs ps → Splits (c :: cs) (.other c :: ps)
  | word {w cs : List Char} {ps : List Piece} :
      w ≠ [] → (∀ x ∈ w, isWordChar x = true) → (∀ c ∈ cs.head?, isWordChar c = false) →
        Splits cs ps → Splits (w ++ cs) (.word w :: ps)

/-- The word read so far, kept reversed, as a list of at most one piece. -/
def wordPiece (run : List Char) : List Piece :=
  if run = [] then [] else [.word run.reverse]

/-- The pieces of the text after `run`, the word being read, which is kept reversed. -/
def piecesFrom (run : List Char) : List Char → List Piece
  | [] => wordPiece run
  | c :: cs =>
    if isWordChar c then piecesFrom (c :: run) cs
    else wordPiece run ++ .other c :: piecesFrom [] cs

theorem splits_wordPiece {run cs : List Char} {ps : List Piece}
    (hrun : ∀ x ∈ run, isWordChar x = true) (hcs : ∀ c ∈ cs.head?, isWordChar c = false)
    (h : Splits cs ps) : Splits (run.reverse ++ cs) (wordPiece run ++ ps) := by
  unfold wordPiece
  split
  · subst run
    exact h
  · rename_i hne
    exact .word (by simpa using hne) (by simpa using hrun) hcs h

/-- Every text splits: the pieces read off it word by word are a split of it. -/
theorem splits_piecesFrom (run cs : List Char) (hrun : ∀ x ∈ run, isWordChar x = true) :
    Splits (run.reverse ++ cs) (piecesFrom run cs) := by
  induction cs generalizing run with
  | nil =>
    rw [piecesFrom]
    simpa using splits_wordPiece hrun (by simp) .nil
  | cons c cs ih =>
    unfold piecesFrom
    by_cases hc : isWordChar c = true
    · rw [if_pos hc]
      simpa using ih (c :: run) (by simpa [hc] using hrun)
    · rw [if_neg hc]
      rw [Bool.not_eq_true] at hc
      exact splits_wordPiece hrun (by simpa using hc) (.other hc (by simpa using ih [] (by simp)))

/-- The pieces of a text: its words and the characters between them. -/
def pieces (s : String) : List Piece := piecesFrom [] s.toList

theorem splits_pieces (s : String) : Splits s.toList (pieces s) := by
  have h := splits_piecesFrom [] s.toList (by simp)
  rwa [List.reverse_nil, List.nil_append] at h

/-- A text starts with one word at most: two runs of word characters at its front, each followed by
no word character, are the same run. -/
theorem word_front_unique : ∀ (w cs w' cs' : List Char), w ++ cs = w' ++ cs' →
    (∀ x ∈ w, isWordChar x = true) → (∀ c ∈ cs.head?, isWordChar c = false) →
    (∀ x ∈ w', isWordChar x = true) → (∀ c ∈ cs'.head?, isWordChar c = false) → w = w' ∧ cs = cs'
  | [], _, [], _, h, _, _, _, _ => ⟨rfl, h⟩
  | [], _, y :: _, _, h, _, hcs, hw', _ => by
    simp only [List.nil_append, List.cons_append] at h
    exact absurd (hcs y (by rw [h]; rfl)) (by simp [hw' y List.mem_cons_self])
  | x :: _, _, [], _, h, hw, _, _, hcs' => by
    simp only [List.nil_append, List.cons_append] at h
    exact absurd (hcs' x (by rw [← h]; rfl)) (by simp [hw x List.mem_cons_self])
  | x :: w, cs, y :: w', cs', h, hw, hcs, hw', hcs' => by
    simp only [List.cons_append, List.cons.injEq] at h
    obtain ⟨rfl, h⟩ := h
    obtain ⟨rfl, rfl⟩ := word_front_unique w cs w' cs' h (fun z hz => hw z (List.mem_cons_of_mem x hz))
      hcs (fun z hz => hw' z (List.mem_cons_of_mem x hz)) hcs'
    exact ⟨rfl, rfl⟩

theorem isWordChar_of_front {w cs rest : List Char} {c : Char} (hne : w ≠ [])
    (hw : ∀ x ∈ w, isWordChar x = true) (h : w ++ rest = c :: cs) : isWordChar c = true := by
  obtain ⟨x, w, rfl⟩ := List.exists_cons_of_ne_nil hne
  simp only [List.cons_append, List.cons.injEq] at h
  exact h.1 ▸ hw x List.mem_cons_self

theorem Splits.unique {cs : List Char} {ps qs : List Piece} (hp : Splits cs ps) (hq : Splits cs qs) :
    ps = qs := by
  induction hp generalizing qs with
  | nil =>
    generalize hx : ([] : List Char) = x at hq
    cases hq with
    | nil => rfl
    | other => cases hx
    | word hne => exact absurd (List.append_eq_nil_iff.1 hx.symm).1 hne
  | @other c cs ps hc _ ih =>
    generalize hx : c :: cs = x at hq
    cases hq with
    | nil => cases hx
    | other _ hs => cases hx; rw [ih hs]
    | word hne hw _ _ => exact absurd (isWordChar_of_front hne hw hx.symm) (by simp [hc])
  | @word w cs ps hne hw hcs _ ih =>
    generalize hx : w ++ cs = x at hq
    cases hq with
    | nil => exact absurd (List.append_eq_nil_iff.1 hx).1 hne
    | other hc _ => exact absurd (isWordChar_of_front hne hw hx) (by simp [hc])
    | word _ hw' hcs' hs =>
      obtain ⟨rfl, rfl⟩ := word_front_unique _ _ _ _ hx hw hcs hw' hcs'
      rw [ih hs]

/-! ## The rewrite, piece by piece -/

/-- What a piece becomes: a word as `rewriteWord` reads it, any other character itself. -/
def Piece.rewrite : Piece → Except UnknownNumeral (List Char)
  | .word w => rewriteWord w
  | .other c => .ok [c]

/-- The pieces rewritten one after another, the first failure ending the whole. -/
def rewritePieces : List Piece → Except UnknownNumeral (List Char)
  | [] => .ok []
  | p :: ps => do
    let x ← p.rewrite
    let xs ← rewritePieces ps
    pure (x ++ xs)

@[simp] theorem rewriteWord_nil : rewriteWord [] = .ok [] := by
  rw [rewriteWord, if_neg (by decide)]

theorem rewriteFrom_words (run w cs : List Char) (hw : ∀ x ∈ w, isWordChar x = true) :
    rewriteFrom run (w ++ cs) = rewriteFrom (w.reverse ++ run) cs := by
  induction w generalizing run with
  | nil => rfl
  | cons x w ih =>
    have hx : isWordChar x = true := hw x List.mem_cons_self
    rw [List.cons_append, rewriteFrom, if_pos hx, ih (x :: run) fun y hy => hw y (by simp [hy])]
    simp

/-- Where the text ends or a character that is no word character comes, the word read so far is
rewritten and the rest is read afresh. -/
theorem rewriteFrom_gap (run cs : List Char) (hcs : ∀ c ∈ cs.head?, isWordChar c = false) :
    rewriteFrom run cs = (do
      let x ← rewriteWord run.reverse
      let xs ← rewriteFrom [] cs
      pure (x ++ xs)) := by
  cases cs with
  | nil =>
    rw [rewriteFrom, rewriteFrom, List.reverse_nil, rewriteWord_nil]
    cases rewriteWord run.reverse <;> simp [bind, Except.bind, pure, Except.pure]
  | cons c cs =>
    have hc : ¬isWordChar c = true := by simp [hcs c rfl]
    rw [rewriteFrom.eq_2 run, rewriteFrom.eq_2 [], if_neg hc, if_neg hc, List.reverse_nil,
      rewriteWord_nil]
    cases rewriteWord run.reverse <;> cases rewriteFrom [] cs <;>
      simp [bind, Except.bind, pure, Except.pure]

theorem rewriteFrom_of_splits {cs : List Char} {ps : List Piece} (h : Splits cs ps) :
    rewriteFrom [] cs = rewritePieces ps := by
  induction h with
  | nil => exact rewriteWord_nil
  | @other c cs ps hc _ ih =>
    rw [rewriteFrom, if_neg (by simp [hc]), ih]
    simp only [List.reverse_nil, rewriteWord_nil, rewritePieces, Piece.rewrite]
    cases rewritePieces ps <;> simp [bind, Except.bind, pure, Except.pure]
  | @word w cs ps _ hw hcs _ ih =>
    rw [rewriteFrom_words [] w cs hw, rewriteFrom_gap _ cs hcs, ih]
    simp [rewritePieces, Piece.rewrite]

/-! ## Spelling a numeral word -/

/-- A letter that stands for the letter i or s only when case is ignored: the dotless i, the long
s and the dotted capital I. -/
def foldsOnly (x : Char) : Bool :=
  x == 'ı' || x == 'ſ' || x == 'İ'

/-- The first numeral word that the characters spell when case is ignored, with its value. -/
def spelledNumeral? (w : List Char) : Option (String × Nat) :=
  numeralWords.find? fun p => spells w p.1.toList

/-- What a piece should become: a word that spells a numeral word, the digits of its value; any
other word, and any other character, itself. -/
def Piece.renumbered : Piece → List Char
  | .word w =>
    match spelledNumeral? w with
    | some p => (toString p.2).toList
    | none => w
  | .other c => [c]

/-- A piece the rewrite can read: a word that spells a numeral word has none of the letters that
stand for theirs only when case is ignored. -/
def Piece.Readable : Piece → Prop
  | .word w => spellsNumeral w = true → ∀ x ∈ w, foldsOnly x = false
  | .other _ => True

instance : DecidablePred Piece.Readable
  | .word w =>
    decidable_of_iff (!spellsNumeral w || w.all fun x => !foldsOnly x) <| by
      simp only [Piece.Readable, Bool.or_eq_true, Bool.not_eq_true', List.all_eq_true]
      cases spellsNumeral w <;> simp
  | .other _ => inferInstanceAs (Decidable True)

theorem spells_of_spelledNumeral? {w : List Char} {p : String × Nat}
    (h : spelledNumeral? w = some p) : p ∈ numeralWords ∧ spells w p.1.toList = true := by
  unfold spelledNumeral? at h
  have hsp := List.find?_some h
  exact ⟨List.mem_of_find?_eq_some h, hsp⟩

theorem spellsNumeral_eq_isSome (w : List Char) :
    spellsNumeral w = (spelledNumeral? w).isSome := by
  rw [Bool.eq_iff_iff, spellsNumeral, spelledNumeral?, List.any_eq_true, List.find?_isSome]

theorem numeralWords_isLower : ∀ p ∈ numeralWords, ∀ c ∈ p.1.toList, c.isLower = true := by
  have h : (numeralWords.all fun p => p.1.toList.all Char.isLower) = true := by decide
  intro p hp
  exact List.all_eq_true.1 (List.all_eq_true.1 h p hp)

theorem numeralValue?_numeralWord : ∀ p ∈ numeralWords, numeralValue? p.1 = some p.2 := by
  decide

/-- A text with a character that is no small ASCII letter is no numeral word. -/
theorem numeralValue?_of_not_isLower {s : String} (h : ∃ y ∈ s.toList, y.isLower = false) :
    numeralValue? s = none := by
  obtain ⟨y, hy, hlow⟩ := h
  rw [numeralValue?, Option.map_eq_none_iff, List.find?_eq_none]
  intro p hp hkey
  have hs : p.1 = s := by simpa using hkey
  have := numeralWords_isLower p hp y (hs ▸ hy)
  simp [hlow] at this

/-- Lower-casing leaves the dotless i and the long s as they are, and the capital sigma becomes a
small sigma, no ASCII letter. -/
theorem lowerSimple_of_special :
    lowerSimple 'ı' = 'ı' ∧ lowerSimple 'ſ' = 'ſ' ∧ lowerSimple 'Σ' = 'σ' := by
  simp only [lowerSimple, ← Array.find?_toList]
  decide +kernel

/-- A character that stands for a small ASCII letter, and not only when case is ignored, is
lower-cased to that letter, and is no capital sigma. -/
theorem lowerChar_of_standsFor {x c : Char} (h : standsFor x c = true) (hc : c.isLower = true)
    (hx : foldsOnly x = false) : x ≠ 'Σ' ∧ lowerChar x = [c] := by
  simp only [foldsOnly, Bool.or_eq_false_iff, beq_eq_false_iff_ne] at hx
  obtain ⟨⟨hı, hſ⟩, hİ⟩ := hx
  have hlow : lowerSimple x = c := by
    simpa [standsFor, hı, hſ] using h
  refine ⟨?_, by simp [lowerChar, hİ, hlow]⟩
  rintro rfl
  rw [lowerSimple_of_special.2.2] at hlow
  subst hlow
  simp at hc

/-- A letter that stands for another only when case is ignored keeps a character that is no
small ASCII letter in its lower-case form. -/
theorem lowerChar_of_foldsOnly {x : Char} (hx : foldsOnly x = true) :
    x ≠ 'Σ' ∧ ∃ y ∈ lowerChar x, y.isLower = false := by
  simp only [foldsOnly, Bool.or_eq_true, beq_iff_eq] at hx
  rcases hx with (rfl | rfl) | rfl
  · exact ⟨by decide, 'ı', by simp [lowerChar, lowerSimple_of_special.1], by decide⟩
  · exact ⟨by decide, 'ſ', by simp [lowerChar, lowerSimple_of_special.2.1], by decide⟩
  · exact ⟨by decide, '̇', by simp [lowerChar], by decide⟩

/-- Characters that spell a word of small ASCII letters, none of them standing for its letter only
when case is ignored, lower-case to that word, whatever came before them. -/
theorem lowerFrom_of_spells : ∀ {w a : List Char} (before : List Char), spells w a = true →
    (∀ c ∈ a, c.isLower = true) → (∀ x ∈ w, foldsOnly x = false) → lowerFrom before w = a
  | [], [], _, _, _, _ => rfl
  | x :: xs, c :: cs, before, h, ha, hw => by
    simp only [spells, Bool.and_eq_true] at h
    obtain ⟨hσ, hx⟩ :=
      lowerChar_of_standsFor h.1 (ha c List.mem_cons_self) (hw x List.mem_cons_self)
    have hrest : lowerFrom (x :: before) xs = cs :=
      lowerFrom_of_spells (x :: before) h.2 (fun c' hc' => ha c' (List.mem_cons_of_mem _ hc'))
        (fun y hy => hw y (List.mem_cons_of_mem _ hy))
    rw [lowerFrom, if_neg hσ, hx, hrest]
    rfl
  | [], _ :: _, _, h, _, _ => by simp [spells] at h
  | _ :: _, [], _, h, _, _ => by simp [spells] at h

/-- Characters that spell a word of small ASCII letters, one of them standing for its letter only
when case is ignored, lower-case to a text with a character that is no small ASCII letter. -/
theorem lowerFrom_of_spells_foldsOnly : ∀ {w a : List Char} (before : List Char),
    spells w a = true → (∀ c ∈ a, c.isLower = true) → (∃ x ∈ w, foldsOnly x = true) →
      ∃ y ∈ lowerFrom before w, y.isLower = false
  | [], _, _, _, _, ⟨_, hx, _⟩ => by simp at hx
  | _ :: _, [], _, h, _, _ => by simp [spells] at h
  | x :: xs, c :: cs, before, h, ha, ⟨z, hz, hfz⟩ => by
    simp only [spells, Bool.and_eq_true] at h
    by_cases hx : foldsOnly x = true
    · obtain ⟨hσ, y, hy, hlow⟩ := lowerChar_of_foldsOnly hx
      exact ⟨y, by rw [lowerFrom, if_neg hσ]; exact List.mem_append_left _ hy, hlow⟩
    · rw [Bool.not_eq_true] at hx
      obtain ⟨hσ, -⟩ := lowerChar_of_standsFor h.1 (ha c List.mem_cons_self) hx
      have hz' : z ∈ xs := by
        rcases List.mem_cons.1 hz with rfl | hz'
        · simp [hx] at hfz
        · exact hz'
      obtain ⟨y, hy, hlow⟩ := lowerFrom_of_spells_foldsOnly (x :: before) h.2
        (fun c' hc' => ha c' (List.mem_cons_of_mem _ hc')) ⟨z, hz', hfz⟩
      exact ⟨y, by rw [lowerFrom, if_neg hσ]; exact List.mem_append_right _ hy, hlow⟩

/-! ## One word -/

/-- A word the rewrite can read becomes what it should: its value's digits if it spells a
numeral word, else itself. -/
theorem rewriteWord_of_readable {w : List Char} (h : (Piece.word w).Readable) :
    rewriteWord w = .ok (Piece.word w).renumbered := by
  rw [rewriteWord, Piece.renumbered]
  cases hs : spelledNumeral? w with
  | none =>
    have hno : ¬spellsNumeral w = true := by simp [spellsNumeral_eq_isSome, hs]
    rw [if_neg hno]
  | some p =>
    obtain ⟨hmem, hsp⟩ := spells_of_spelledNumeral? hs
    have hyes : spellsNumeral w = true := by simp [spellsNumeral_eq_isSome, hs]
    have hkey : lower (String.ofList w) = p.1 := by
      rw [lower, String.toList_ofList,
        lowerFrom_of_spells [] hsp (numeralWords_isLower p hmem) (h hyes), String.ofList_toList]
    rw [if_pos hyes]
    simp only [hkey, numeralValue?_numeralWord p hmem]

theorem rewriteWord_of_unreadable {w : List Char} (h : ¬(Piece.word w).Readable) :
    rewriteWord w = .error ⟨lower (String.ofList w)⟩ := by
  simp only [Piece.Readable, Classical.not_imp, Classical.not_forall, Bool.not_eq_false] at h
  obtain ⟨hyes, x, hx, hfx⟩ := h
  obtain ⟨p, hs⟩ := Option.isSome_iff_exists.1 (spellsNumeral_eq_isSome w ▸ hyes)
  obtain ⟨hmem, hsp⟩ := spells_of_spelledNumeral? hs
  have hnone : numeralValue? (lower (String.ofList w)) = none := by
    apply numeralValue?_of_not_isLower
    rw [lower, String.toList_ofList, String.toList_ofList]
    exact lowerFrom_of_spells_foldsOnly [] hsp (numeralWords_isLower p hmem) ⟨x, hx, hfx⟩
  rw [rewriteWord, if_pos hyes]
  simp only [hnone]

/-! ## Digits stay digits -/

/-- The digits of the numeral words' values are word characters that lower-case to themselves. -/
theorem numeralWords_digits : ∀ p ∈ numeralWords, (toString p.2).toList ≠ [] ∧
    ∀ d ∈ (toString p.2).toList, d.isDigit = true ∧ isWordChar d = true ∧ lowerSimple d = d := by
  -- each of the ten digits is looked up in the case table once, not once for each value
  have hten : ("0123456789".toList.all fun d => lowerSimple d == d) = true := by
    simp only [lowerSimple, ← Array.find?_toList]
    decide +kernel
  have hvalues : (numeralWords.all fun p => !(toString p.2).toList.isEmpty &&
      (toString p.2).toList.all fun d =>
        d.isDigit && isWordChar d && "0123456789".toList.contains d)
        = true := by
    decide +kernel
  intro p hp
  have hp' := List.all_eq_true.1 hvalues p hp
  simp only [Bool.and_eq_true, Bool.not_eq_true', List.isEmpty_eq_false_iff, List.all_eq_true,
    List.contains_iff_mem] at hp'
  refine ⟨hp'.1, fun d hd => ⟨(hp'.2 d hd).1.1, (hp'.2 d hd).1.2, ?_⟩⟩
  simpa using List.all_eq_true.1 hten d (hp'.2 d hd).2

theorem standsFor_of_isDigit {d c : Char} (hd : d.isDigit = true) (hlow : lowerSimple d = d)
    (hc : c.isLower = true) : standsFor d c = false := by
  have hne : d ≠ c := by
    rintro rfl
    change (Char.val _ ≥ '0'.val && Char.val _ ≤ '9'.val) = true at hd
    change (Char.val _ ≥ 'a'.val && Char.val _ ≤ 'z'.val) = true at hc
    simp only [Bool.and_eq_true, decide_eq_true_eq] at hd hc
    exact absurd (UInt32.le_trans hc.1 hd.2) (by decide)
  have hı : d ≠ 'ı' := by rintro rfl; exact absurd hd (by decide)
  have hſ : d ≠ 'ſ' := by rintro rfl; exact absurd hd (by decide)
  simp [standsFor, hlow, hne, hı, hſ]

theorem spellsNumeral_digits {p : String × Nat} (hp : p ∈ numeralWords) :
    spellsNumeral (toString p.2).toList = false := by
  obtain ⟨hne, hdigits⟩ := numeralWords_digits p hp
  obtain ⟨d, ds, hds⟩ := List.exists_cons_of_ne_nil hne
  obtain ⟨hd, -, hlow⟩ := hdigits d (by rw [hds]; exact List.mem_cons_self)
  rw [spellsNumeral, List.any_eq_false, hds]
  intro q hq
  cases hw : q.1.toList with
  | nil => simp [spells]
  | cons c cs =>
    have hc := numeralWords_isLower q hq c (by simp [hw])
    simp [spells, standsFor_of_isDigit hd hlow hc]

theorem spellsNumeral_renumbered (w : List Char) :
    spellsNumeral (Piece.word w).renumbered = false := by
  rw [Piece.renumbered]
  cases hs : spelledNumeral? w with
  | none => rw [spellsNumeral_eq_isSome, hs]; rfl
  | some p => exact spellsNumeral_digits (spells_of_spelledNumeral? hs).1

theorem renumbered_word {w : List Char} (hne : w ≠ []) (hw : ∀ x ∈ w, isWordChar x = true) :
    (Piece.word w).renumbered ≠ [] ∧ ∀ x ∈ (Piece.word w).renumbered, isWordChar x = true := by
  rw [Piece.renumbered]
  cases hs : spelledNumeral? w with
  | none => exact ⟨hne, hw⟩
  | some p =>
    obtain ⟨hne', hdigits⟩ := numeralWords_digits p (spells_of_spelledNumeral? hs).1
    exact ⟨hne', fun d hd => (hdigits d hd).2.1⟩

/-- The piece a piece becomes. -/
def Piece.renumber : Piece → Piece
  | .word w => .word (Piece.word w).renumbered
  | .other c => .other c

theorem renumbered_renumber (p : Piece) : p.renumber.renumbered = p.renumbered := by
  cases p with
  | word w =>
    have hnone : spelledNumeral? (Piece.word w).renumbered = none := by
      simpa [spellsNumeral_eq_isSome] using spellsNumeral_renumbered w
    rw [Piece.renumber, Piece.renumbered, hnone]
  | other c => rfl

theorem readable_renumber (p : Piece) : p.renumber.Readable := by
  cases p with
  | word w =>
    intro h
    rw [spellsNumeral_renumbered] at h
    cases h
  | other c => trivial

/-- A split text begins with a word character when its first piece is a word. -/
theorem head_renumbered {cs : List Char} {ps : List Piece} (h : Splits cs ps)
    (hcs : ∀ c ∈ cs.head?, isWordChar c = false) :
    ∀ c ∈ (ps.flatMap Piece.renumbered).head?, isWordChar c = false := by
  cases h with
  | nil => simp
  | other hc _ => simpa [Piece.renumbered] using hc
  | word hne hw _ _ =>
    obtain ⟨x, xs, rfl⟩ := List.exists_cons_of_ne_nil hne
    have := hcs x (by simp)
    simp [hw x List.mem_cons_self] at this

/-- What the pieces of a split text become is split by the pieces they become. -/
theorem splits_renumber {cs : List Char} {ps : List Piece} (h : Splits cs ps) :
    Splits (ps.flatMap Piece.renumbered) (ps.map Piece.renumber) := by
  induction h with
  | nil => exact .nil
  | other hc _ ih => exact .other hc ih
  | word hne hw _ hsplit ih =>
    obtain ⟨hne', hw'⟩ := renumbered_word hne hw
    exact .word hne' hw' (head_renumbered hsplit ‹_›) ih

/-! ## The whole text -/

theorem rewriteNumerals_of_splits {s : String} {ps : List Piece} (hs : Splits s.toList ps) :
    rewriteNumerals s = String.ofList <$> rewritePieces ps := by
  rw [rewriteNumerals, rewriteFrom_of_splits hs]

theorem rewritePieces_of_readable : ∀ {ps : List Piece}, (∀ p ∈ ps, p.Readable) →
    rewritePieces ps = .ok (ps.flatMap Piece.renumbered)
  | [], _ => rfl
  | p :: ps, h => by
    have hp : p.rewrite = .ok p.renumbered := by
      cases p with
      | word w => exact rewriteWord_of_readable (h _ List.mem_cons_self)
      | other c => rfl
    rw [rewritePieces, hp, rewritePieces_of_readable fun q hq => h q (List.mem_cons_of_mem _ hq)]
    simp [bind, Except.bind, pure, Except.pure]

theorem rewritePieces_of_unreadable : ∀ {ps : List Piece}, (∃ p ∈ ps, ¬p.Readable) →
    ∃ e, rewritePieces ps = .error e
  | [], ⟨_, hp, _⟩ => by simp at hp
  | p :: ps, ⟨q, hq, hr⟩ => by
    rw [rewritePieces]
    cases hp : p.rewrite with
    | error e => exact ⟨e, rfl⟩
    | ok x =>
      have hq' : q ∈ ps := by
        rcases List.mem_cons.1 hq with rfl | hq'
        · cases q with
          | word w => simp [Piece.rewrite, rewriteWord_of_unreadable hr] at hp
          | other c => exact absurd trivial hr
        · exact hq'
      obtain ⟨e, he⟩ := rewritePieces_of_unreadable ⟨q, hq', hr⟩
      exact ⟨e, by simp [he, bind, Except.bind]⟩

/-- A rewritten text rewrites to itself: it splits into the pieces its pieces became, each of them
readable and already rewritten. -/
theorem rewriteNumerals_renumbered {s : String} {ps : List Piece} (hs : Splits s.toList ps) :
    rewriteNumerals (String.ofList (ps.flatMap Piece.renumbered)) =
      .ok (String.ofList (ps.flatMap Piece.renumbered)) := by
  have hs' : Splits (String.ofList (ps.flatMap Piece.renumbered)).toList (ps.map Piece.renumber) := by
    rw [String.toList_ofList]
    exact splits_renumber hs
  have hread' : ∀ p ∈ ps.map Piece.renumber, p.Readable := by
    simp only [List.mem_map]
    rintro _ ⟨p, -, rfl⟩
    exact readable_renumber p
  rw [rewriteNumerals_of_splits hs', rewritePieces_of_readable hread', List.flatMap_map]
  simp only [renumbered_renumber]
  rfl

/-- Rewriting the numerals of a text goes word by word over its one split into words and the
characters between them. When every word that spells a numeral word, case ignored, spells it
without a dotless i, a long s or a dotted capital I, each such word becomes the digits of its
value, every other character stays, and the result rewrites to itself. Otherwise the rewrite
fails. -/
theorem numerals_become_digits_word_by_word (s : String) :
    (∀ ps, Splits s.toList ps ↔ ps = pieces s) ∧
      ((∀ p ∈ pieces s, p.Readable) →
        rewriteNumerals s = .ok (String.ofList ((pieces s).flatMap Piece.renumbered)) ∧
          rewriteNumerals (String.ofList ((pieces s).flatMap Piece.renumbered)) =
            .ok (String.ofList ((pieces s).flatMap Piece.renumbered))) ∧
      ((∃ p ∈ pieces s, ¬p.Readable) → ∃ e, rewriteNumerals s = .error e) := by
  have hs := splits_pieces s
  refine ⟨fun ps => ⟨fun h => h.unique hs, fun h => h ▸ hs⟩, fun hread => ⟨?first,
    rewriteNumerals_renumbered hs⟩, fun hbad => ?fails⟩
  case first =>
    rw [rewriteNumerals_of_splits hs, rewritePieces_of_readable hread]
    rfl
  case fails =>
    obtain ⟨e, he⟩ := rewritePieces_of_unreadable hbad
    exact ⟨e, by rw [rewriteNumerals_of_splits hs, he]; rfl⟩

/-- "Level Seven" is the word "Level", a blank and the word "Seven", and rewrites to "Level 7",
which rewrites to itself. -/
theorem level_seven_rewrites :
    Splits "Level Seven".toList [.word "Level".toList, .other ' ', .word "Seven".toList] ∧
      rewriteNumerals "Level Seven" = .ok "Level 7" ∧
        rewriteNumerals "Level 7" = .ok "Level 7" := by
  have hs : Splits "Level Seven".toList
      [.word "Level".toList, .other ' ', .word "Seven".toList] := by
    have htext : "Level Seven".toList = "Level".toList ++ ' ' :: ("Seven".toList ++ []) := by
      decide
    have hlevel : ∀ x ∈ "Level".toList, isWordChar x = true :=
      List.all_eq_true.1 (by decide +kernel)
    have hseven : ∀ x ∈ "Seven".toList, isWordChar x = true :=
      List.all_eq_true.1 (by decide +kernel)
    have hblank : isWordChar ' ' = false := by
      rw [isWordChar_eq_any_toList]
      decide +kernel
    rw [htext]
    exact .word (by decide) hlevel (by simpa using hblank)
      (.other hblank (.word (by decide) hseven (by simp) .nil))
  have hread : ∀ p ∈ [Piece.word "Level".toList, .other ' ', .word "Seven".toList],
      p.Readable := by
    intro p hp
    simp only [List.mem_cons, List.not_mem_nil, or_false] at hp
    rcases hp with rfl | rfl | rfl <;> decide +kernel
  have hresult : String.ofList ([Piece.word "Level".toList, .other ' ',
      .word "Seven".toList].flatMap Piece.renumbered) = "Level 7" := by
    decide +kernel
  obtain ⟨hsplit, hok, -⟩ := numerals_become_digits_word_by_word "Level Seven"
  have hp := (hsplit _).1 hs
  obtain ⟨hfirst, hagain⟩ := hok (by rw [← hp]; exact hread)
  rw [← hp, hresult] at hfirst hagain
  exact ⟨hs, hfirst, hagain⟩

/-- Six written with a long s spells a numeral word only when case is ignored, and rewriting it
fails. -/
theorem six_with_a_long_s_fails : rewriteNumerals "ſix" = .error ⟨"ſix"⟩ := by
  have hs : Splits "ſix".toList [.word "ſix".toList] := by
    have htext : "ſix".toList = "ſix".toList ++ [] := (List.append_nil _).symm
    have hword : ∀ x ∈ "ſix".toList, isWordChar x = true := List.all_eq_true.1 (by decide +kernel)
    rw [htext]
    exact .word (by decide) hword (by simp) .nil
  have hbad : ¬(Piece.word "ſix".toList).Readable := by decide +kernel
  have hkey : lower (String.ofList "ſix".toList) = "ſix" := by decide +kernel
  rw [rewriteNumerals_of_splits hs, rewritePieces, Piece.rewrite, rewriteWord_of_unreadable hbad,
    hkey]
  rfl

end VoiceCalc
