-- Tokens come out in their final form. Each token is a run of characters that are not blanks,
-- already in lower case, with no edge punctuation at either end and not a number glued to a star;
-- so splitting the tokens joined by spaces gives them back unchanged.
import VoiceCalc.Token
import VoiceCalc.Proofs.LowerCase

namespace VoiceCalc

open Text

/-! ## Words -/

namespace Text

/-- The words read after `cur`, the word being read (kept reversed): none is empty, none holds a
blank, and their characters come from `cur` or from the text. -/
theorem mem_wordsFrom : ∀ {cur cs w : List Char}, (∀ c ∈ cur, isBlank c = false) →
    w ∈ wordsFrom cur cs → w ≠ [] ∧ ∀ c ∈ w, (c ∈ cur ∨ c ∈ cs) ∧ isBlank c = false
  | cur, [], w, hcur, h => by
    rw [wordsFrom] at h
    split at h
    · cases h
    · rename_i hne
      rw [List.mem_singleton.mp h]
      exact ⟨by simpa using hne, fun c hc => ⟨.inl (List.mem_reverse.mp hc),
        hcur c (List.mem_reverse.mp hc)⟩⟩
  | cur, x :: cs, w, hcur, h => by
    rw [wordsFrom] at h
    split at h
    · have hrest : ∀ {w}, w ∈ wordsFrom [] cs →
          w ≠ [] ∧ ∀ c ∈ w, (c ∈ cur ∨ c ∈ x :: cs) ∧ isBlank c = false := fun hw => by
        obtain ⟨hne, hw⟩ := mem_wordsFrom (fun _ h => by cases h) hw
        exact ⟨hne, fun c hc => ⟨.inr (List.mem_cons_of_mem x ((hw c hc).1.resolve_left
          (by simp))), (hw c hc).2⟩⟩
      split at h
      · exact hrest h
      · rename_i hne
        rcases List.mem_cons.mp h with rfl | h
        · exact ⟨by simpa using hne, fun c hc => ⟨.inl (List.mem_reverse.mp hc),
            hcur c (List.mem_reverse.mp hc)⟩⟩
        · exact hrest h
    · rename_i hx
      have hcur' : ∀ c ∈ x :: cur, isBlank c = false := by
        intro c hc
        rcases List.mem_cons.mp hc with rfl | hc
        · simpa using hx
        · exact hcur c hc
      obtain ⟨hne, hw⟩ := mem_wordsFrom hcur' h
      refine ⟨hne, fun c hc => ⟨?_, (hw c hc).2⟩⟩
      rcases (hw c hc).1 with hc' | hc'
      · rcases List.mem_cons.mp hc' with rfl | hc'
        · exact .inr List.mem_cons_self
        · exact .inl hc'
      · exact .inr (List.mem_cons_of_mem x hc')

/-- Every word of a text is a nonempty run of its characters, none of them a blank. -/
theorem mem_words {cs w : List Char} (h : w ∈ words cs) :
    w ≠ [] ∧ ∀ c ∈ w, c ∈ cs ∧ isBlank c = false := by
  obtain ⟨hne, hw⟩ := mem_wordsFrom (fun _ h => by cases h) h
  exact ⟨hne, fun c hc => ⟨(hw c hc).1.resolve_left (by simp), (hw c hc).2⟩⟩

theorem wordsFrom_append_word (cur w rest : List Char) (hw : ∀ c ∈ w, isBlank c = false) :
    wordsFrom cur (w ++ rest) = wordsFrom (w.reverse ++ cur) rest := by
  induction w generalizing cur with
  | nil => rfl
  | cons x w ih =>
    have hx : isBlank x = false := hw x List.mem_cons_self
    rw [List.cons_append, wordsFrom, if_neg (by simp [hx]),
      ih (x :: cur) fun c hc => hw c (List.mem_cons_of_mem x hc)]
    simp

theorem wordsFrom_blanks (cur bs : List Char) (hb : ∀ b ∈ bs, isBlank b = true) :
    wordsFrom cur bs = wordsFrom cur [] := by
  induction bs generalizing cur with
  | nil => rfl
  | cons b bs ih =>
    have hrest : wordsFrom [] bs = [] := ih [] fun c hc => hb c (List.mem_cons_of_mem b hc)
    rw [wordsFrom.eq_2, if_pos (hb b List.mem_cons_self), hrest, wordsFrom.eq_1]

theorem wordsFrom_append_blanks (cur cs bs : List Char) (hb : ∀ b ∈ bs, isBlank b = true) :
    wordsFrom cur (cs ++ bs) = wordsFrom cur cs := by
  induction cs generalizing cur with
  | nil => exact wordsFrom_blanks cur bs hb
  | cons x cs ih =>
    rw [List.cons_append, wordsFrom.eq_2, wordsFrom.eq_2]
    split
    · split <;> simp only [ih]
    · exact ih (x :: cur)

theorem words_dropWhile (cs : List Char) : words (cs.dropWhile isBlank) = words cs := by
  induction cs with
  | nil => rfl
  | cons x cs ih =>
    by_cases hx : isBlank x = true
    · rw [List.dropWhile_cons_of_pos hx, ih]
      simp only [words, wordsFrom, hx, if_true]
      rfl
    · rw [List.dropWhile_cons_of_neg hx]

theorem words_trimBlanks (cs : List Char) : words (trimBlanks cs) = words cs := by
  have hsplit : cs.dropWhile isBlank = trimBlanks cs ++
      ((cs.dropWhile isBlank).reverse.takeWhile isBlank).reverse := by
    have h := congrArg List.reverse
      (@List.takeWhile_append_dropWhile _ isBlank (cs.dropWhile isBlank).reverse)
    rw [List.reverse_append, List.reverse_reverse] at h
    exact h.symm
  have hblank : ∀ b ∈ ((cs.dropWhile isBlank).reverse.takeWhile isBlank).reverse, isBlank b = true :=
    fun b hb => List.all_eq_true.mp List.all_takeWhile b (List.mem_reverse.mp hb)
  rw [← words_dropWhile cs, hsplit]
  exact (wordsFrom_append_blanks [] _ _ hblank).symm

/-- Every character left after dropping characters at both ends is one of the text. -/
theorem mem_of_mem_dropBothEnds {p : Char → Bool} {cs : List Char} {c : Char}
    (h : c ∈ ((cs.dropWhile p).reverse.dropWhile p).reverse) : c ∈ cs := by
  have h1 := (List.dropWhile_suffix p).subset (List.mem_reverse.mp h)
  exact (List.dropWhile_suffix p).subset (List.mem_reverse.mp h1)

theorem mem_of_mem_trimBlanks {cs : List Char} {c : Char} (h : c ∈ trimBlanks cs) : c ∈ cs := by
  unfold trimBlanks at h
  exact mem_of_mem_dropBothEnds h

theorem words_intercalate : ∀ (ws : List (List Char)), (∀ w ∈ ws, w ≠ [] ∧ ∀ c ∈ w, isBlank c = false) →
    words ([' '].intercalate ws) = ws
  | [], _ => rfl
  | [w], h => by
    obtain ⟨hne, hw⟩ := h w List.mem_cons_self
    rw [List.intercalate_singleton, words, ← List.append_nil w, wordsFrom_append_word _ _ _ hw]
    simp only [wordsFrom, List.append_nil, List.isEmpty_reverse, List.reverse_reverse]
    simp [hne]
  | w :: w' :: ws, h => by
    obtain ⟨hne, hw⟩ := h w List.mem_cons_self
    rw [List.intercalate_cons_cons, List.append_assoc, words, wordsFrom_append_word _ _ _ hw]
    simp only [List.singleton_append, wordsFrom, List.append_nil, List.isEmpty_reverse,
      List.reverse_reverse]
    rw [if_pos (by decide), if_neg (by simpa using hne)]
    exact congrArg (w :: ·) (words_intercalate (w' :: ws) fun v hv => h v (List.mem_cons_of_mem w hv))

/-- A character of words joined by a separator is one of the separator or of a word. -/
theorem mem_intercalate {sep : List Char} : ∀ {ws : List (List Char)} {x : Char},
    x ∈ sep.intercalate ws → x ∈ sep ∨ ∃ w ∈ ws, x ∈ w
  | [], _, h => by cases h
  | [w], x, h => by
    rw [List.intercalate_singleton] at h
    exact .inr ⟨w, List.mem_cons_self, h⟩
  | w :: w' :: ws, x, h => by
    rw [List.intercalate_cons_cons, List.mem_append, List.mem_append] at h
    rcases h with (h | h) | h
    · exact .inr ⟨w, List.mem_cons_self, h⟩
    · exact .inl h
    · rcases mem_intercalate h with h | ⟨v, hv, hx⟩
      · exact .inl h
      · exact .inr ⟨v, List.mem_cons_of_mem w hv, hx⟩

end Text

/-! ## Trimming the edge punctuation -/

theorem head?_dropWhile {p : Char → Bool} (l : List Char) : ∀ c ∈ (l.dropWhile p).head?, p c = false := by
  intro c hc
  have h := List.head?_dropWhile_not p l
  rw [Option.mem_def.mp hc] at h
  exact h

theorem getLast?_of_suffix {l t : List Char} (h : t <:+ l) (hne : t ≠ []) : t.getLast? = l.getLast? := by
  obtain ⟨s, rfl⟩ := h
  rw [List.getLast?_append]
  cases ht : t.getLast? with
  | none => exact absurd (List.getLast?_eq_none_iff.mp ht) hne
  | some c => rfl

theorem trimEdge_ends (w : List Char) :
    (∀ c ∈ (trimEdge w).head?, isEdgePunctuation c = false) ∧
      ∀ c ∈ (trimEdge w).getLast?, isEdgePunctuation c = false := by
  unfold trimEdge
  refine ⟨fun c hc => ?_, fun c hc => ?_⟩
  · rw [List.head?_reverse] at hc
    have hne : ((w.dropWhile isEdgePunctuation).reverse.dropWhile isEdgePunctuation) ≠ [] := by
      rintro h
      rw [h] at hc
      cases hc
    rw [getLast?_of_suffix (List.dropWhile_suffix _) hne, List.getLast?_reverse] at hc
    exact head?_dropWhile w c hc
  · rw [List.getLast?_reverse] at hc
    exact head?_dropWhile _ c hc

theorem mem_of_mem_trimEdge {w : List Char} {c : Char} (h : c ∈ trimEdge w) : c ∈ w := by
  unfold trimEdge at h
  exact mem_of_mem_dropBothEnds h

theorem trimEdge_of_ends {w : List Char} (hh : ∀ c ∈ w.head?, isEdgePunctuation c = false)
    (hl : ∀ c ∈ w.getLast?, isEdgePunctuation c = false) : trimEdge w = w := by
  have hfront : ∀ l : List Char, (∀ c ∈ l.head?, isEdgePunctuation c = false) →
      l.dropWhile isEdgePunctuation = l := by
    intro l hl
    cases l with
    | nil => rfl
    | cons x l => exact List.dropWhile_cons_of_neg (by simp [hl x rfl])
  unfold trimEdge
  rw [hfront w hh, hfront w.reverse (by rwa [List.head?_reverse]), List.reverse_reverse]

/-! ## Numbers glued to a star -/

/-- One or more ASCII digits followed by one star sign. -/
def Glued (t : List Char) : Prop :=
  ∃ ds u, t = ds ++ [u] ∧ ds ≠ [] ∧ (∀ d ∈ ds, d.isDigit = true) ∧ isStarSign u = true

theorem isStarSign_plain {u : Char} (h : isStarSign u = true) :
    u.isDigit = false ∧ isEdgePunctuation u = false := by
  simp only [isStarSign, Bool.or_eq_true, beq_iff_eq] at h
  rcases h with rfl | rfl <;> exact ⟨by decide, by decide⟩

theorem edge_of_isDigit {d : Char} (h : d.isDigit = true) : isEdgePunctuation d = false := by
  simp only [isEdgePunctuation, Bool.or_eq_false_iff, beq_eq_false_iff_ne, and_assoc]
  refine ⟨?_, ?_, ?_, ?_, ?_, ?_, ?_, ?_⟩ <;> rintro rfl <;> exact absurd h (by decide)

theorem piecesOf_glued {ds : List Char} {u : Char} (hne : ds ≠ []) (hd : ∀ d ∈ ds, d.isDigit = true)
    (hu : isStarSign u = true) : piecesOf (ds ++ [u]) = [ds, [u]] := by
  have hall : ds.reverse.all Char.isDigit = true :=
    List.all_eq_true.mpr fun d hd' => hd d (List.mem_reverse.mp hd')
  simp only [piecesOf, List.reverse_append, List.reverse_singleton, List.singleton_append, hu,
    List.isEmpty_reverse, hall, List.reverse_reverse, Bool.true_and, Bool.and_true]
  simp [hne]

theorem piecesOf_of_not_glued {w : List Char} (hne : w ≠ []) (hg : ¬Glued w) : piecesOf w = [w] := by
  unfold piecesOf
  cases hw : w.reverse with
  | nil => exact absurd (List.reverse_eq_nil_iff.mp hw) hne
  | cons u rds =>
    rw [List.reverse_eq_cons_iff] at hw
    dsimp only
    rw [if_neg]
    intro h
    simp only [Bool.and_eq_true, Bool.not_eq_eq_eq_not, Bool.not_true, List.isEmpty_eq_false_iff,
      List.all_eq_true] at h
    exact hg ⟨rds.reverse, u, hw, by simpa using h.1.2, fun d hd => h.2 d (List.mem_reverse.mp hd),
      h.1.1⟩

/-! ## Tokens in their final form -/

/-- A token in its final form: not empty, without blanks, made of characters lower-casing leaves
alone, without edge punctuation at either end, and not a number glued to a star. -/
structure Finished (t : List Char) : Prop where
  ne_nil : t ≠ []
  no_blank : ∀ c ∈ t, isBlank c = false
  settled : ∀ c ∈ t, Settled c
  head : ∀ c ∈ t.head?, isEdgePunctuation c = false
  last : ∀ c ∈ t.getLast?, isEdgePunctuation c = false
  not_glued : ¬Glued t

/-- A number cut from a star is finished: digits are no edge punctuation, and it ends in a digit,
not a star. -/
theorem finished_digits {ds : List Char} (hne : ds ≠ []) (hd : ∀ d ∈ ds, d.isDigit = true)
    (hw : ∀ c ∈ ds, isBlank c = false ∧ Settled c) : Finished ds where
  ne_nil := hne
  no_blank c hc := (hw c hc).1
  settled c hc := (hw c hc).2
  head c hc := edge_of_isDigit (hd c (List.mem_of_mem_head? hc))
  last c hc := edge_of_isDigit (hd c (List.mem_of_mem_getLast? hc))
  not_glued := by
    rintro ⟨ds', u', rfl, -, -, hu'⟩
    have := hd u' (by simp)
    rw [(isStarSign_plain hu').1] at this
    cases this

/-- A star cut from a number is finished: one character is too short for a number and a star. -/
theorem finished_star {u : Char} (hu : isStarSign u = true) (hw : isBlank u = false ∧ Settled u) :
    Finished [u] where
  ne_nil := by simp
  no_blank c hc := by rw [List.mem_singleton.mp hc]; exact hw.1
  settled c hc := by rw [List.mem_singleton.mp hc]; exact hw.2
  head c hc := by
    rw [List.head?_cons, Option.mem_def, Option.some.injEq] at hc
    rw [← hc]; exact (isStarSign_plain hu).2
  last c hc := by
    rw [List.getLast?_singleton, Option.mem_def, Option.some.injEq] at hc
    rw [← hc]; exact (isStarSign_plain hu).2
  not_glued := by
    rintro ⟨ds', u', h, hne', -, -⟩
    have := congrArg List.length h
    simp only [List.length_singleton, List.length_append] at this
    exact hne' (List.eq_nil_of_length_eq_zero (by omega))

/-- The tokens of a trimmed word of settled characters other than blanks are finished. -/
theorem finished_of_mem_piecesOf {w p : List Char} (hw : ∀ c ∈ w, isBlank c = false ∧ Settled c)
    (hh : ∀ c ∈ w.head?, isEdgePunctuation c = false) (hl : ∀ c ∈ w.getLast?, isEdgePunctuation c = false)
    (hp : p ∈ piecesOf w) : Finished p := by
  by_cases hne : w = []
  · subst hne
    cases hp
  by_cases hg : Glued w
  · obtain ⟨ds, u, rfl, hds, hd, hu⟩ := hg
    rw [piecesOf_glued hds hd hu] at hp
    simp only [List.mem_cons, List.not_mem_nil, or_false] at hp
    rcases hp with rfl | rfl
    · exact finished_digits hds hd fun c hc => hw c (by simp [hc])
    · exact finished_star hu (hw u (by simp))
  · rw [piecesOf_of_not_glued hne hg, List.mem_singleton] at hp
    subst hp
    exact ⟨hne, fun c hc => (hw c hc).1, fun c hc => (hw c hc).2, hh, hl, hg⟩

theorem piecesOf_trimEdge_of_finished {t : List Char} (h : Finished t) : piecesOf (trimEdge t) = [t] := by
  rw [trimEdge_of_ends h.head h.last, piecesOf_of_not_glued h.ne_nil h.not_glued]

/-! ## Tokenizing -/

/-- Words that each give themselves as their one token give back the list of words. -/
theorem flatMap_of_singletons {f : List Char → List (List Char)} :
    ∀ {ps : List (List Char)}, (∀ p ∈ ps, f p = [p]) → ps.flatMap f = ps
  | [], _ => rfl
  | p :: ps, h => by
    rw [List.flatMap_cons, h p List.mem_cons_self,
      flatMap_of_singletons fun q hq => h q (List.mem_cons_of_mem p hq)]
    rfl

/-- Every token of a sentence is finished: it comes from a word of the lower-cased sentence. -/
theorem finished_of_mem_tokenize {s : String} {t : String} (h : t ∈ tokenize s) : Finished t.toList := by
  simp only [tokenize, List.mem_map, List.mem_flatMap] at h
  obtain ⟨p, ⟨w, hw, hp⟩, rfl⟩ := h
  rw [String.toList_ofList]
  obtain ⟨-, hchars⟩ := mem_words hw
  refine finished_of_mem_piecesOf (fun c hc => ?_) (trimEdge_ends w).1 (trimEdge_ends w).2 hp
  obtain ⟨hc', hb⟩ := hchars c (mem_of_mem_trimEdge hc)
  unfold lower at hc'
  rw [String.toList_ofList] at hc'
  exact ⟨hb, settled_of_mem_lowerFrom [] hc'⟩

theorem settled_space : Settled ' ' := settled_of_uncovered (by decide +kernel)

theorem tokenize_intercalate {ts : List String} (h : ∀ t ∈ ts, Finished t.toList) :
    tokenize (" ".intercalate ts) = ts := by
  have hwords : ∀ w ∈ ts.map String.toList, w ≠ [] ∧ ∀ c ∈ w, isBlank c = false := by
    intro w hw
    obtain ⟨t, ht, rfl⟩ := List.mem_map.mp hw
    exact ⟨(h t ht).ne_nil, (h t ht).no_blank⟩
  have hsettled : ∀ c ∈ trimBlanks ([' '].intercalate (ts.map String.toList)), Settled c := by
    intro c hc
    rcases mem_intercalate (mem_of_mem_trimBlanks hc) with hc | ⟨w, hw, hcw⟩
    · rw [List.mem_singleton.mp hc]; exact settled_space
    · obtain ⟨t, ht, rfl⟩ := List.mem_map.mp hw
      exact (h t ht).settled c hcw
  have hlow : (lower (trim (" ".intercalate ts))).toList = trimBlanks ([' '].intercalate (ts.map String.toList)) := by
    unfold lower trim
    rw [String.toList_ofList, String.toList_ofList, String.toList_intercalate]
    exact lowerFrom_of_settled [] hsettled
  have hpieces : ∀ p ∈ ts.map String.toList, piecesOf (trimEdge p) = [p] := by
    intro p hp
    obtain ⟨t, ht, rfl⟩ := List.mem_map.mp hp
    exact piecesOf_trimEdge_of_finished (h t ht)
  unfold tokenize
  rw [hlow, words_trimBlanks, words_intercalate _ hwords, flatMap_of_singletons hpieces,
    List.map_map]
  exact (List.map_congr_left fun t _ => String.ofList_toList).trans (List.map_id ts)

/-- Every token of a sentence is in its final form: it is not empty, holds no blank, neither starts
nor ends with edge punctuation, is its own lower-case form and is not a number glued to a star.
So tokenizing the tokens joined by spaces gives the same tokens. -/
theorem tokens_in_final_form (s : String) :
    (∀ t ∈ tokenize s, t ≠ "" ∧ (∀ c ∈ t.toList, isBlank c = false) ∧
      (∀ c ∈ t.toList.head?, isEdgePunctuation c = false) ∧
      (∀ c ∈ t.toList.getLast?, isEdgePunctuation c = false) ∧ lower t = t ∧ ¬Glued t.toList) ∧
    tokenize (" ".intercalate (tokenize s)) = tokenize s := by
  refine ⟨fun t ht => ?_, tokenize_intercalate fun t ht => finished_of_mem_tokenize ht⟩
  have h := finished_of_mem_tokenize ht
  refine ⟨fun he => h.ne_nil (by rw [he]; rfl), h.no_blank, h.head, h.last, ?_, h.not_glued⟩
  unfold lower
  rw [lowerFrom_of_settled [] h.settled, String.ofList_toList]

end VoiceCalc
