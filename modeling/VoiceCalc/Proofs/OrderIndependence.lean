-- Reading a sentence chunk by chunk. A chunk is a whole command on its own: a switch with its
-- word, a question, a field with its number, a rarity word, a number of stars, a phrase or a
-- keyword. When the chunks stand apart, two words that no pass reads between neighbours, the
-- sentence reads as the chunks do alone, whatever their order, as long as no two chunks give the
-- same kind of command. Side by side with nothing between them they do not: a switch keyword
-- takes the switch word of the chunk before it.
import Mathlib.Tactic.IntervalCases
import VoiceCalc.Proofs.PassRun

namespace VoiceCalc

open Vocabulary

/-! ## Chunks -/

/-- A stretch of a sentence that is a whole command on its own. -/
inductive Chunk
  /-- A switch keyword with a switch word after it, or before it. -/
  | toggle (i : Fin toggles.length) (keyword word : String) (wordFirst : Bool)
  /-- Three words that fill the slots of a question. -/
  | question (i : Fin questions.length) (first second third : String)
  /-- A field keyword with the digits of a number after it, or before it. -/
  | field (i : Fin fields.length) (keyword digits : String) (digitsFirst : Bool)
  /-- A rarity word. -/
  | rarity (word : String)
  /-- The digits of a number of stars and a star word. -/
  | stage (digits star : String)
  /-- A fixed phrase. -/
  | phrase (i : Fin phrases.length)
  /-- A word that is a command by itself. -/
  | keyword (i : Fin keywords.length) (word : String)
  deriving DecidableEq

namespace Chunk

def tokens : Chunk → List String
  | toggle _ k w wordFirst => if wordFirst then [w, k] else [k, w]
  | question _ a b c => [a, b, c]
  | field _ k d digitsFirst => if digitsFirst then [d, k] else [k, d]
  | rarity w => [w]
  | stage d u => [d, u]
  | phrase i => phrases[i].words
  | keyword _ w => [w]

/-- The words are those the chunk's form asks for. -/
def Valid : Chunk → Prop
  | toggle i k w _ => k ∈ toggles[i].keywords ∧ (w ∈ onWords ∨ w ∈ offWords)
  | question i a b c => a ∈ questions[i].first ∧ b ∈ questions[i].second ∧ c ∈ questions[i].third
  | field i k d _ => k ∈ fields[i].keywords ∧
      ∃ n, tokenNumber? d = .ok (some n) ∧ fields[i].accepts n = true
  | rarity w => ∃ r, rarityOf? w = some r
  | stage d u => (∃ n s, tokenNumber? d = .ok (some n) ∧ stageOf? n = some s) ∧ u ∈ starWords
  | phrase _ => True
  | keyword i w => w ∈ keywords[i].words

/-- The claim the chunk makes on its own words. -/
def claim : Chunk → Claim
  | toggle i _ w wordFirst =>
    ⟨⟨toggles[i].kind, .switch (onWords.contains w), toggles[i].feedback (onWords.contains w)⟩,
      if wordFirst then [1, 0] else [0, 1]⟩
  | question i _ _ _ => ⟨⟨questions[i].kind, .none, questions[i].feedback⟩, [0, 1, 2]⟩
  | field i _ d digitsFirst =>
    ⟨⟨fields[i].kind, .number (digitsValue d.toList), fields[i].label (digitsValue d.toList)⟩,
      if digitsFirst then [1, 0] else [0, 1]⟩
  | rarity w =>
    let r := (rarityOf? w).getD ""
    ⟨⟨.rarity, .word r, r⟩, [0]⟩
  | stage d _ =>
    let s := (stageOf? (digitsValue d.toList)).getD ("", "")
    ⟨⟨.evolution, .word s.1, s.2⟩, [0, 1]⟩
  | phrase i =>
    ⟨⟨phrases[i].kind, phrases[i].value, phrases[i].feedback⟩,
      List.range' 0 phrases[i].words.length⟩
  | keyword i _ => ⟨⟨keywords[i].kind, .none, keywords[i].feedback⟩, [0]⟩

def command (c : Chunk) : Command := c.claim.command

/-- Where the pass that reads the chunk stands in `passes`. -/
def home : Chunk → Nat
  | toggle i .. => i
  | question i .. => 3 + i
  | field i .. => 5 + i
  | rarity _ => 10
  | stage .. => 11
  | phrase i => 12 + i
  | keyword i _ => 17 + i

/-- The chunk's chart once its command is read. -/
def done (c : Chunk) : Chart := (Chart.start c.tokens).claim c.command c.claim.positions

/-- The chunk's chart after the first `n` passes. -/
def stateAt (c : Chunk) (n : Nat) : Chart := if n ≤ c.home then Chart.start c.tokens else c.done

def homePass : Chunk → Pass
  | toggle i .. => .toggle toggles[i]
  | question i .. => .question questions[i]
  | field i .. => .field fields[i]
  | rarity _ => .rarity
  | stage .. => .stage
  | phrase i => .phrase phrases[i]
  | keyword i _ => .keyword keywords[i]

theorem passes_home (c : Chunk) : passes[c.home]? = some c.homePass := by
  cases c with
  | toggle i =>
    obtain ⟨i, hi⟩ := i
    have : i < 2 := hi
    interval_cases i <;> rfl
  | question i =>
    obtain ⟨i, hi⟩ := i
    have : i < 2 := hi
    interval_cases i <;> rfl
  | field i =>
    obtain ⟨i, hi⟩ := i
    have : i < 5 := hi
    interval_cases i <;> rfl
  | rarity => rfl
  | stage => rfl
  | phrase i =>
    obtain ⟨i, hi⟩ := i
    have : i < 5 := hi
    interval_cases i <;> rfl
  | keyword i =>
    obtain ⟨i, hi⟩ := i
    have : i < 1 := hi
    interval_cases i
    rfl

theorem kind_homePass (c : Chunk) : c.homePass.kind = c.command.kind := by
  cases c <;> rfl

/-! ### The chunk read alone -/

theorem switch_words_disjoint : ∀ w ∈ offWords, w ∉ onWords := by decide

theorem switch_words_not_keywords :
    ∀ i : Fin toggles.length, ∀ w ∈ onWords ++ offWords, w ∉ toggles[i].keywords := by decide

end Chunk

/-! ### Each pass on the words of its chunk -/

namespace Chart

theorem readToggle_start {t : Toggle} {k w : String} (hk : k ∈ t.keywords) (hwk : w ∉ t.keywords)
    (hw : w ∈ onWords ∨ w ∈ offWords) (wordFirst : Bool) :
    (start (if wordFirst then [w, k] else [k, w])).readToggle t =
      (start (if wordFirst then [w, k] else [k, w])).claim
        ⟨t.kind, .switch (onWords.contains w), t.feedback (onWords.contains w)⟩
        (if wordFirst then [1, 0] else [0, 1]) := by
  rcases hw with hw | hw
  · cases wordFirst <;>
      simp [readToggle, positions_start, freeIn, free_start, token_start, switchBeside, before,
        List.range_succ, hk, hwk, hw]
  · have hon := Chunk.switch_words_disjoint w hw
    cases wordFirst <;>
      simp [readToggle, positions_start, freeIn, free_start, token_start, switchBeside, before,
        List.range_succ, hk, hwk, hw, hon]

theorem readQuestion_start {q : Question} {a b c : String} (ha : a ∈ q.first) (hb : b ∈ q.second)
    (hc : c ∈ q.third) :
    (start [a, b, c]).readQuestion q = (start [a, b, c]).claim ⟨q.kind, .none, q.feedback⟩ [0, 1, 2] := by
  simp [readQuestion, has_start, tokens_start, asks, freeIn, free_start, token_start, ha, hb, hc]

theorem readField_start {f : Field} {k d : String} {n : Nat} (hk : k ∈ f.keywords)
    (hd : tokenNumber? d = .ok (some n)) (ha : f.accepts n = true) (hdk : d ∉ f.keywords)
    (digitsFirst : Bool) :
    (start (if digitsFirst then [d, k] else [k, d])).readField f =
      .ok ((start (if digitsFirst then [d, k] else [k, d])).claim ⟨f.kind, .number n, f.label n⟩
        (if digitsFirst then [1, 0] else [0, 1])) := by
  cases digitsFirst <;>
    simp [readField, positions_start, freeIn, free_start, token_start, fieldAt, numberNear,
      numberAt, twoBefore, hk, hd, ha, hdk, List.range_succ, bind, Except.bind, pure, Except.pure]

theorem readRarity_start {w r : String} (hr : rarityOf? w = some r) :
    (start [w]).readRarity = (start [w]).claim ⟨.rarity, .word r, r⟩ [0] := by
  simp [readRarity, positions_start, free_start, token_start, hr]

theorem readStage_start {d u : String} {n : Nat} {s : String × String}
    (hd : tokenNumber? d = .ok (some n)) (hs : stageOf? n = some s) (hu : u ∈ starWords) :
    (start [d, u]).readStage = .ok ((start [d, u]).claim ⟨.evolution, .word s.1, s.2⟩ [0, 1]) := by
  simp [readStage, tokens_start, stageAt, freeIn, free_start, token_start, numberAt, hd, hs, hu,
    bind, Except.bind, pure, Except.pure]

theorem readPhrase_start (p : Phrase) :
    (start p.words).readPhrase p =
      (start p.words).claim ⟨p.kind, p.value, p.feedback⟩ (List.range' 0 p.words.length) := by
  simp [readPhrase, has_start, tokens_start, phraseAt, free_start, List.all_eq_true, List.mem_range']

theorem readKeyword_start {k : Keyword} {w : String} (hw : w ∈ k.words) :
    (start [w]).readKeyword k = (start [w]).claim ⟨k.kind, .none, k.feedback⟩ [0] := by
  simp [readKeyword, has_start, positions_start, freeIn, free_start, token_start, hw]

end Chart

namespace Chunk

/-- The pass that reads a chunk reads its whole command from the chunk's own words. -/
theorem run_home {c : Chunk} (hv : c.Valid) : c.homePass.run (Chart.start c.tokens) = .ok c.done := by
  cases c with
  | toggle i k w wordFirst =>
    obtain ⟨hk, hw⟩ := hv
    have hwk : w ∉ toggles[i].keywords := switch_words_not_keywords i w (by simpa using hw)
    rw [homePass, Pass.run, tokens, Chart.readToggle_start hk hwk hw wordFirst]
    rfl
  | question i a b c =>
    obtain ⟨ha, hb, hc⟩ := hv
    rw [homePass, Pass.run, tokens, Chart.readQuestion_start ha hb hc]
    rfl
  | field i k d digitsFirst =>
    obtain ⟨hk, n, hd, ha⟩ := hv
    have hdk : d ∉ fields[i].keywords := fun hm =>
      not_mem_words_of_number hd (Chart.words_of_field _ (List.getElem_mem i.isLt) d hm)
    obtain ⟨-, -, rfl⟩ := tokenNumber?_eq_some hd
    rw [homePass, Pass.run, tokens, Chart.readField_start hk hd ha hdk digitsFirst]
    rfl
  | rarity w =>
    obtain ⟨r, hr⟩ := hv
    rw [homePass, Pass.run, tokens, Chart.readRarity_start hr, done, command, claim, hr]
    rfl
  | stage d u =>
    obtain ⟨⟨n, s, hd, hs⟩, hu⟩ := hv
    obtain ⟨-, -, rfl⟩ := tokenNumber?_eq_some hd
    rw [homePass, Pass.run, tokens, Chart.readStage_start hd hs hu, done, command, claim, hs]
    rfl
  | phrase i =>
    rw [homePass, Pass.run, tokens, Chart.readPhrase_start]
    rfl
  | keyword i w =>
    rw [homePass, Pass.run, tokens, Chart.readKeyword_start hv]
    rfl

theorem mem_positions (c : Chunk) {i : Nat} (hi : i < c.tokens.length) : i ∈ c.claim.positions := by
  cases c with
  | toggle _ _ _ wordFirst => cases wordFirst <;> simp [tokens, claim] at hi ⊢ <;> omega
  | question => simp [tokens, claim] at hi ⊢; omega
  | field _ _ _ digitsFirst => cases digitsFirst <;> simp [tokens, claim] at hi ⊢ <;> omega
  | rarity => simp [tokens, claim] at hi ⊢; omega
  | stage => simp [tokens, claim] at hi ⊢; omega
  | phrase => simpa [tokens, claim, List.mem_range'] using hi
  | keyword => simp [tokens, claim] at hi ⊢; omega

theorem free_done (c : Chunk) (i : Nat) : c.done.free i = false := by
  by_cases hi : i < c.tokens.length
  · simp [done, Chart.free, Chart.used, Chart.start, c.mem_positions hi]
  · simp [done, Chart.free, Chart.start, hi]

/-! ### The passes before the chunk's own -/

theorem passes_before_toggle_ignore : ∀ i : Fin toggles.length, ∀ n < i.val,
    ∀ w ∈ toggles[i].keywords ++ onWords ++ offWords, passes[n]?.all (·.ignores w) = true := by
  decide

theorem passes_before_question_ignore : ∀ i : Fin questions.length, ∀ n < 3 + i.val,
    ∀ w ∈ questions[i].first ++ questions[i].second ++ questions[i].third,
      passes[n]?.all (·.ignores w) = true := by
  decide

theorem passes_before_field_ignore : ∀ i : Fin fields.length, ∀ n < 5 + i.val,
    ∀ w ∈ fields[i].keywords, passes[n]?.all (·.ignores w) = true := by
  decide

theorem passes_before_rarity_ignore : ∀ n < 10, ∀ w ∈ rarities.map (·.1),
    passes[n]?.all (·.ignores w) = true := by
  decide

theorem passes_before_stage_ignore : ∀ n < 11, ∀ w ∈ starWords,
    passes[n]?.all (·.ignores w) = true := by
  decide

theorem passes_before_phrase_quiet : ∀ i : Fin phrases.length, ∀ n < 12 + i.val,
    passes[n]?.all (·.quietOn phrases[i].words) = true := by
  decide

theorem passes_before_keyword_ignore : ∀ i : Fin keywords.length, ∀ n < 17 + i.val,
    ∀ w ∈ keywords[i].words, passes[n]?.all (·.ignores w) = true := by
  decide

theorem quiet_before {c : Chunk} (hv : c.Valid) {n : Nat} (hn : n < c.home) {p : Pass}
    (hp : passes[n]? = some p) : p.run (Chart.start c.tokens) = .ok (Chart.start c.tokens) := by
  have hpm : p ∈ passes := List.mem_of_getElem? hp
  have hall : ∀ {w : String}, passes[n]?.all (·.ignores w) = true → p.ignores w = true :=
    fun h => by rwa [hp] at h
  have hnum : ∀ {w : String} {m : Nat}, tokenNumber? w = .ok (some m) → p.ignores w = true :=
    fun h => Pass.ignores_of_number hpm h
  cases c with
  | toggle i k w wordFirst =>
    obtain ⟨hk, hw⟩ := hv
    have hword : ∀ v ∈ [k, w], p.ignores v = true := by
      simp only [List.mem_cons, List.not_mem_nil, or_false]
      rintro v (rfl | rfl) <;> refine hall (passes_before_toggle_ignore i n hn _ ?_) <;> simp_all
    refine Pass.run_start hpm fun v hv => hword v ?_
    cases wordFirst <;>
      simp only [tokens, Bool.false_eq_true, if_true, if_false, List.mem_cons, List.not_mem_nil,
        or_false] at hv ⊢ <;> tauto
  | question i a b c =>
    obtain ⟨ha, hb, hc⟩ := hv
    refine Pass.run_start hpm fun v hv => hall (passes_before_question_ignore i n hn v ?_)
    simp only [tokens, List.mem_cons, List.not_mem_nil, or_false] at hv
    rcases hv with rfl | rfl | rfl <;> simp_all
  | field i k d digitsFirst =>
    obtain ⟨hk, m, hd, -⟩ := hv
    have hword : ∀ v ∈ [k, d], p.ignores v = true := by
      simp only [List.mem_cons, List.not_mem_nil, or_false]
      rintro v (rfl | rfl)
      · exact hall (passes_before_field_ignore i n hn _ hk)
      · exact hnum hd
    refine Pass.run_start hpm fun v hv => hword v ?_
    cases digitsFirst <;>
      simp only [tokens, Bool.false_eq_true, if_true, if_false, List.mem_cons, List.not_mem_nil,
        or_false] at hv ⊢ <;> tauto
  | rarity w =>
    obtain ⟨r, hr⟩ := hv
    refine Pass.run_start hpm fun v hv => ?_
    simp only [tokens, List.mem_singleton] at hv
    exact hv ▸ hall (passes_before_rarity_ignore n hn w (Chart.mem_rarity_words hr))
  | stage d u =>
    obtain ⟨⟨m, s, hd, -⟩, hu⟩ := hv
    refine Pass.run_start hpm fun v hv => ?_
    simp only [tokens, List.mem_cons, List.not_mem_nil, or_false] at hv
    rcases hv with rfl | rfl
    · exact hnum hd
    · exact hall (passes_before_stage_ignore n hn _ hu)
  | phrase i =>
    refine Pass.run_start_of_quietOn hpm ?_
    have := passes_before_phrase_quiet i n hn
    rwa [hp] at this
  | keyword i w =>
    refine Pass.run_start hpm fun v hv' => ?_
    simp only [tokens, List.mem_singleton] at hv'
    exact hv' ▸ hall (passes_before_keyword_ignore i n hn w hv)

/-! ### The chunk from pass to pass -/

theorem stateAt_succ_of_ne {c : Chunk} {n : Nat} (h : c.home ≠ n) :
    c.stateAt (n + 1) = c.stateAt n := by
  unfold stateAt
  split_ifs <;> first | rfl | omega

/-- Each pass takes the chunk's chart from one state to the next: it finds nothing before the
chunk's own pass, reads the chunk's command there, and finds nothing free after it. -/
theorem run_stateAt {c : Chunk} (hv : c.Valid) {n : Nat} {p : Pass} (hp : passes[n]? = some p) :
    p.run (c.stateAt n) = .ok (c.stateAt (n + 1)) := by
  rcases Nat.lt_trichotomy n c.home with hlt | heq | hgt
  · have h1 : n ≤ c.home := hlt.le
    have h2 : n + 1 ≤ c.home := hlt
    simp only [stateAt, h1, h2, if_true]
    exact quiet_before hv hlt hp
  · subst heq
    rw [c.passes_home, Option.some.injEq] at hp
    have h2 : ¬c.home + 1 ≤ c.home := by omega
    simp only [stateAt, le_refl, h2, if_true, if_false, ← hp]
    exact run_home hv
  · have h1 : ¬n ≤ c.home := by omega
    have h2 : ¬n + 1 ≤ c.home := by omega
    simp only [stateAt, h1, h2, if_false]
    exact Pass.run_of_claimed (List.mem_of_getElem? hp) c.free_done

/-- A chunk's chart has a command of a kind only once its own pass has read it, and then only of
the chunk's kind. -/
theorem has_stateAt {c : Chunk} {n : Nat} {k : CommandKind} (h : (c.stateAt n).has k = true) :
    c.home < n ∧ c.command.kind = k := by
  unfold stateAt at h
  split_ifs at h with hn
  · simp [Chart.has_start] at h
  · refine ⟨by omega, ?_⟩
    simpa [done, Chart.has, Chart.start] using h

theorem tokens_stateAt (c : Chunk) (n : Nat) : (c.stateAt n).tokens = c.tokens := by
  unfold stateAt
  split <;> rfl

theorem sound_stateAt {c : Chunk} (hv : c.Valid) (n : Nat) : (c.stateAt n).Sound := by
  unfold stateAt
  split
  · exact Chart.sound_start _
  · exact (Chart.sound_start _).grows (Pass.grows (List.mem_of_getElem? c.passes_home) (run_home hv))

theorem readable (c : Chunk) (hv : c.Valid) : ∀ w ∈ c.tokens, (tokenNumber? w).isOk = true := by
  have hword : ∀ {w : String}, w ∈ Vocabulary.words → (tokenNumber? w).isOk = true := fun hw => by
    have := words_not_number _ hw
    revert this
    rcases tokenNumber? _ with _ | _ | _ <;> simp [Except.isOk, Except.toBool]
  have hnum : ∀ {w : String} {m : Nat}, tokenNumber? w = .ok (some m) →
      (tokenNumber? w).isOk = true := fun h => by simp [h, Except.isOk, Except.toBool]
  cases c with
  | toggle i k w wordFirst =>
    obtain ⟨hk, hw⟩ := hv
    have hk' := hword (Chart.words_of_toggle _ (List.getElem_mem i.isLt) k hk)
    have hw' := hword (by rcases hw with hw | hw
                          · exact Chart.words_of_onWords w hw
                          · exact Chart.words_of_offWords w hw)
    cases wordFirst <;> simp_all [tokens]
  | question i a b c =>
    obtain ⟨h1, h2, h3⟩ := Chart.words_of_question _ (List.getElem_mem i.isLt)
    obtain ⟨ha, hb, hc⟩ := hv
    simp [tokens, hword (h1 a ha), hword (h2 b hb), hword (h3 c hc)]
  | field i k d digitsFirst =>
    obtain ⟨hk, m, hd, -⟩ := hv
    have hk' := hword (Chart.words_of_field _ (List.getElem_mem i.isLt) k hk)
    cases digitsFirst <;> simp [tokens, hk', hnum hd]
  | rarity w =>
    obtain ⟨r, hr⟩ := hv
    simp [tokens, hword (Chart.words_of_rarity hr)]
  | stage d u =>
    obtain ⟨⟨m, s, hd, -⟩, hu⟩ := hv
    simp [tokens, hnum hd, hword (Chart.words_of_starWords u hu)]
  | phrase i => exact fun w hw => hword (Chart.words_of_phrase _ (List.getElem_mem i.isLt) w hw)
  | keyword i w => simp [tokens, hword (Chart.words_of_keyword _ (List.getElem_mem i.isLt) w hv)]

theorem numberAt_stateAt {c : Chunk} (hv : c.Valid) (n j : Nat) :
    ∃ r, (c.stateAt n).numberAt j = .ok r :=
  Chart.numberAt_ok (by rw [tokens_stateAt]; exact c.readable hv) j

theorem home_lt (c : Chunk) : c.home < passes.length := by
  have hlen : passes.length = 18 := rfl
  cases c with
  | toggle i => have : i.val < 2 := i.isLt; simp only [home]; omega
  | question i => have : i.val < 2 := i.isLt; simp only [home]; omega
  | field i => have : i.val < 5 := i.isLt; simp only [home]; omega
  | rarity => simp only [home]; omega
  | stage => simp only [home]; omega
  | phrase i => have : i.val < 5 := i.isLt; simp only [home]; omega
  | keyword i => have : i.val < 1 := i.isLt; simp only [home]; omega

theorem kind_of_home {c : Chunk} {n : Nat} {p : Pass} (hc : c.home = n)
    (hp : passes[n]? = some p) : c.command.kind = p.kind := by
  have h := c.passes_home
  rw [hc, hp, Option.some.injEq] at h
  rw [h, kind_homePass]

end Chunk

/-! ## Chunks side by side -/

namespace Chart

variable {sep : List String}

theorem glues_start (a b : List String) :
    Glues sep (Chart.start a) (Chart.start b) (Chart.start (a ++ sep ++ b)) :=
  ⟨rfl, by simp [Chart.start], rfl⟩

theorem GluesAll.start_intercalate :
    ∀ {cs : List Chunk}, cs ≠ [] →
      GluesAll sep (cs.map (·.stateAt 0)) (start (sep.intercalate (cs.map Chunk.tokens)))
  | [c], _ => by
    simp only [List.map_cons, List.map_nil, List.intercalate_singleton, Chunk.stateAt,
      Nat.zero_le, if_true]
    exact .one _
  | c :: d :: cs, _ => by
    have hrest : GluesAll sep ((d :: cs).map (·.stateAt 0))
        (Chart.start (sep.intercalate ((d :: cs).map Chunk.tokens))) :=
      GluesAll.start_intercalate (List.cons_ne_nil d cs)
    simp only [List.map_cons, List.intercalate_cons_cons] at hrest ⊢
    have hc : c.stateAt 0 = Chart.start c.tokens := by simp [Chunk.stateAt]
    rw [hc]
    refine .cons hrest ?_
    exact glues_start _ _

theorem GluesAll.commands_perm {charts : List Chart} {x : Chart} (h : GluesAll sep charts x) :
    x.commands.Perm (charts.flatMap Chart.commands) := by
  induction h with
  | one c => simp
  | @cons c y x cs _ hg ih =>
    have hp := hg.claims.map Claim.command
    simp only [List.map_append, List.map_map] at hp
    rw [List.flatMap_cons]
    refine hp.trans (List.Perm.append_left _ ?_)
    simpa [commands, Function.comp_def] using ih

end Chart

/-! ## Reading chunks that stand apart -/

theorem Chunk.commands_done : ∀ cs : List Chunk,
    (cs.map Chunk.done).flatMap Chart.commands = cs.map Chunk.command
  | [] => rfl
  | c :: cs => by
    rw [List.map_cons, List.flatMap_cons, Chunk.commands_done cs, List.map_cons]
    rfl

section Apart

variable {sep : List String}

/-- One pass over chunks glued with a separator moves each chunk's chart to its next state: only
the chunk whose pass it is has anything for it, and no other chunk has that kind. -/
theorem gluesAll_step (hs : Separator sep) {n : Nat} {p : Pass} (hp : passes[n]? = some p) :
    ∀ {cs : List Chunk} {x : Chart}, (∀ c ∈ cs, c.Valid) → (cs.map (·.command.kind)).Nodup →
      Chart.GluesAll sep (cs.map (·.stateAt n)) x →
      ∃ x', p.run x = .ok x' ∧ Chart.GluesAll sep (cs.map (·.stateAt (n + 1))) x' ∧
        ((∀ c ∈ cs, c.home ≠ n) → x' = x)
  | [], _, _, _, h => by cases h
  | c :: cs, x, hv, hk, h => by
    have hpm : p ∈ passes := List.mem_of_getElem? hp
    have hvc := hv c List.mem_cons_self
    have hkc : c.command.kind ∉ cs.map (·.command.kind) := (List.nodup_cons.1 hk).1
    have hapart : c.command.kind = p.kind → ∀ d ∈ cs, d.home ≠ n := fun hck d hd hdn => by
      refine hkc ?_
      rw [hck, ← Chunk.kind_of_home hdn hp]
      exact List.mem_map_of_mem hd
    rcases Chart.GluesAll.cons_inv h with ⟨hnil, rfl⟩ | ⟨y, hy, hg⟩
    · obtain rfl : cs = [] := List.map_eq_nil_iff.1 hnil
      exact ⟨_, Chunk.run_stateAt hvc hp, .one _,
        fun hne => Chunk.stateAt_succ_of_ne (hne c List.mem_cons_self)⟩
    · obtain ⟨y', hy', hgy', hyq⟩ := gluesAll_step hs hp
        (fun d hd => hv d (List.mem_cons_of_mem c hd)) (List.nodup_cons.1 hk).2 hy
      have hq : c.stateAt (n + 1) = c.stateAt n ∨ y' = y := by
        by_cases hc : c.home = n
        · exact Or.inr (hyq (hapart (Chunk.kind_of_home hc hp)))
        · exact Or.inl (Chunk.stateAt_succ_of_ne hc)
      have hga : (c.stateAt n).has p.kind = true → y' = y := fun ha =>
        hyq (hapart (Chunk.has_stateAt ha).2)
      have hgb : y.has p.kind = true → c.stateAt (n + 1) = c.stateAt n := fun hb => by
        obtain ⟨piece, hpiece, hpk⟩ := hy.has hb
        obtain ⟨d, hd, rfl⟩ := List.mem_map.1 hpiece
        refine Chunk.stateAt_succ_of_ne fun hc => hkc ?_
        rw [Chunk.kind_of_home hc hp, ← (Chunk.has_stateAt hpk).2]
        exact List.mem_map_of_mem hd
      obtain ⟨x', hx', hgx'⟩ := p.glue hpm hg hs (Chunk.sound_stateAt hvc n)
        (Chunk.numberAt_stateAt hvc n) (Chunk.run_stateAt hvc hp) hy' hq hga hgb
      refine ⟨x', hx', .cons hgy' hgx', fun hall => ?_⟩
      rw [Chunk.stateAt_succ_of_ne (hall c List.mem_cons_self),
        hyq fun d hd => hall d (List.mem_cons_of_mem c hd)] at hgx'
      exact hg.eq_of_grows hgx' (Pass.grows hpm hx')

/-- All the passes over chunks glued with a separator read each chunk's command. -/
theorem gluesAll_runPasses (hs : Separator sep) {cs : List Chunk} (hv : ∀ c ∈ cs, c.Valid)
    (hk : (cs.map (·.command.kind)).Nodup) :
    ∀ (l : List Pass) (n : Nat) {x : Chart}, passes.drop n = l →
      Chart.GluesAll sep (cs.map (·.stateAt n)) x →
      ∃ x', runPasses l x = .ok x' ∧ Chart.GluesAll sep (cs.map Chunk.done) x'
  | [], n, x, hl, h => by
    have hn : passes.length ≤ n := List.drop_eq_nil_iff.1 hl
    have hdone : cs.map (·.stateAt n) = cs.map Chunk.done := List.map_congr_left fun c _ => by
      have := c.home_lt
      simp only [Chunk.stateAt, show ¬n ≤ c.home by omega, if_false]
    exact ⟨x, rfl, hdone ▸ h⟩
  | p :: l, n, x, hl, h => by
    have hn : n < passes.length := by
      by_contra hc
      rw [List.drop_eq_nil_iff.2 (by omega)] at hl
      cases hl
    rw [List.drop_eq_getElem_cons hn, List.cons.injEq] at hl
    have hp : passes[n]? = some p := by rw [List.getElem?_eq_getElem hn, hl.1]
    have hl' : passes.drop (n + 1) = l := hl.2
    obtain ⟨x', hx', hg', -⟩ := gluesAll_step hs hp hv hk h
    obtain ⟨x'', hx'', hg''⟩ := gluesAll_runPasses hs hv hk l (n + 1) hl' hg'
    refine ⟨x'', ?_, hg''⟩
    rw [runPasses, List.foldlM_cons, hx']
    exact hx''

theorem readTokens_nil : readTokens [] = .ok [] := by
  have hfree : ∀ i, (Chart.start []).free i = false := fun i => by simp [Chart.free, Chart.start]
  simp only [readTokens, claimsOf, readAll_eq, runPasses_of_claimed hfree passes fun _ h => h]
  simp [Chart.readLoneNumber, Chart.positions, Chart.start]
  rfl

/-- Chunks of distinct kinds, two or more unread words between neighbours, read as the union of
their commands. -/
theorem readTokens_apart (hs : Separator sep) {cs : List Chunk} (hv : ∀ c ∈ cs, c.Valid)
    (hk : (cs.map (·.command.kind)).Nodup) :
    ∃ cmds, readTokens (sep.intercalate (cs.map Chunk.tokens)) = .ok cmds ∧
      cmds.Perm (cs.map Chunk.command) := by
  by_cases hne : cs = []
  · subst hne
    exact ⟨[], readTokens_nil, List.Perm.refl _⟩
  obtain ⟨x, hx, hg⟩ := gluesAll_runPasses hs hv hk passes 0 List.drop_zero
    (Chart.GluesAll.start_intercalate hne)
  have hcmds : x.commands.Perm (cs.map Chunk.command) :=
    Chunk.commands_done cs ▸ hg.commands_perm
  have hclaims : x.claims ≠ [] := fun hnil => hne (by
    have := hcmds.length_eq
    simp [Chart.commands, hnil] at this
    exact List.eq_nil_of_length_eq_zero this.symm)
  refine ⟨x.commands, ?_, hcmds⟩
  simp only [readTokens, claimsOf, readAll_eq, hx, bind, Except.bind,
    readLoneNumber_of_ne_nil hclaims]
  rfl

theorem Chunk.readTokens_alone {c : Chunk} (hv : c.Valid) : readTokens c.tokens = .ok [c.command] := by
  have hs : Separator ["um", "um"] := by
    unfold Separator Filler
    decide
  obtain ⟨cmds, hr, hp⟩ := readTokens_apart hs (show ∀ d ∈ [c], d.Valid by simpa using hv)
    (by simp)
  rw [List.map_singleton, List.perm_singleton] at hp
  simpa [hp] using hr

end Apart

/-- Order independence: chunks of distinct kinds, with two or more words that no pass reads
between neighbours, read in any order as the union of what each reads alone, which is its own
command. -/
theorem separated_chunks_read_in_any_order (sep : List String) (hs : Separator sep)
    (cs cs' : List Chunk) (hv : ∀ c ∈ cs, c.Valid) (hk : (cs.map (·.command.kind)).Nodup)
    (hp : cs'.Perm cs) :
    (∀ c ∈ cs, readTokens c.tokens = .ok [c.command]) ∧
      ∃ cmds, readTokens (sep.intercalate (cs'.map Chunk.tokens)) = .ok cmds ∧
        cmds.Perm (cs.map Chunk.command) := by
  refine ⟨fun c hc => Chunk.readTokens_alone (hv c hc), ?_⟩
  have hv' : ∀ c ∈ cs', c.Valid := fun c hc => hv c (hp.mem_iff.1 hc)
  have hk' : (cs'.map (·.command.kind)).Nodup := ((hp.map _).nodup_iff).2 hk
  obtain ⟨cmds, hr, hperm⟩ := readTokens_apart hs hv' hk'
  exact ⟨cmds, hr, hperm.trans (hp.map _)⟩

/-- The example of the parser's documentation, "pve on, scouting 4, copy 2" against
"copy 2, scouting 4, pve on", with "um well" between the chunks. -/
theorem pve_scouting_copies_read_in_both_orders :
    Separator ["um", "well"] ∧
      (∀ c ∈ [Chunk.toggle ⟨1, by decide⟩ "pve" "on" false,
        .field ⟨2, by decide⟩ "scouting" "4" false, .field ⟨1, by decide⟩ "copy" "2" false],
        c.Valid) ∧
      ([Chunk.toggle ⟨1, by decide⟩ "pve" "on" false, .field ⟨2, by decide⟩ "scouting" "4" false,
        .field ⟨1, by decide⟩ "copy" "2" false].map (·.command.kind)).Nodup ∧
      [Chunk.field ⟨1, by decide⟩ "copy" "2" false, .field ⟨2, by decide⟩ "scouting" "4" false,
        .toggle ⟨1, by decide⟩ "pve" "on" false].Perm
        [Chunk.toggle ⟨1, by decide⟩ "pve" "on" false, .field ⟨2, by decide⟩ "scouting" "4" false,
          .field ⟨1, by decide⟩ "copy" "2" false] ∧
      ((∀ c ∈ [Chunk.toggle ⟨1, by decide⟩ "pve" "on" false,
          .field ⟨2, by decide⟩ "scouting" "4" false, .field ⟨1, by decide⟩ "copy" "2" false],
          readTokens c.tokens = .ok [c.command]) ∧
        ∃ cmds, readTokens (["um", "well"].intercalate
            ([Chunk.field ⟨1, by decide⟩ "copy" "2" false,
              .field ⟨2, by decide⟩ "scouting" "4" false,
              .toggle ⟨1, by decide⟩ "pve" "on" false].map Chunk.tokens)) = .ok cmds ∧
          cmds.Perm ([Chunk.toggle ⟨1, by decide⟩ "pve" "on" false,
            .field ⟨2, by decide⟩ "scouting" "4" false,
            .field ⟨1, by decide⟩ "copy" "2" false].map Chunk.command)) := by
  have hs : Separator ["um", "well"] := by
    unfold Separator Filler
    decide
  have hv : ∀ c ∈ [Chunk.toggle ⟨1, by decide⟩ "pve" "on" false,
      .field ⟨2, by decide⟩ "scouting" "4" false, .field ⟨1, by decide⟩ "copy" "2" false],
      c.Valid := by
    simp only [List.mem_cons, List.not_mem_nil, or_false, forall_eq_or_imp, forall_eq]
    exact ⟨by simp only [Chunk.Valid]; decide, ⟨by decide, 4, rfl, rfl⟩, ⟨by decide, 2, rfl, rfl⟩⟩
  have hk : ([Chunk.toggle ⟨1, by decide⟩ "pve" "on" false,
      .field ⟨2, by decide⟩ "scouting" "4" false,
      .field ⟨1, by decide⟩ "copy" "2" false].map (·.command.kind)).Nodup := by decide
  have hp : [Chunk.field ⟨1, by decide⟩ "copy" "2" false,
      .field ⟨2, by decide⟩ "scouting" "4" false, .toggle ⟨1, by decide⟩ "pve" "on" false].Perm
      [Chunk.toggle ⟨1, by decide⟩ "pve" "on" false, .field ⟨2, by decide⟩ "scouting" "4" false,
        .field ⟨1, by decide⟩ "copy" "2" false] := by decide
  exact ⟨hs, hv, hk, hp, separated_chunks_read_in_any_order _ hs _ _ hv hk hp⟩

/-- Side by side with nothing between them the chunks do not read alone: "ditto" takes the switch
word "on" of the chunk before it, and "pve" is read as a flag. -/
theorem adjacent_switch_takes_neighbours_word :
    readTokens ["pve", "on"] = .ok [⟨.pve, .switch true, "PvE on"⟩] ∧
      readTokens ["ditto", "off"] = .ok [⟨.ditto, .switch false, "Ditto off"⟩] ∧
      readTokens (["pve", "on"] ++ ["ditto", "off"]) =
        .ok [⟨.ditto, .switch true, "Ditto on"⟩, ⟨.pve, .switch true, "PvE round"⟩] := by
  decide +kernel

end VoiceCalc
