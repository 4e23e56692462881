-- The passes of the chart one at a time. `passes` lists them in the order `Chart.readAll` runs
-- them; every pass acts on each side of a glued chart as it would alone (`Pass.glue`), and leaves
-- alone a chart in which it has nothing to read: one whose words it ignores, or one with no free
-- word at all.
import Mathlib.Data.List.Infix
import VoiceCalc.Proofs.GluePasses

namespace VoiceCalc

open Vocabulary

/-! ## The passes one by one -/

/-- A pass of the chart, in the form `Chart.readAll` runs it. -/
inductive Pass
  | toggle (t : Toggle)
  | flag (f : Flag)
  | question (q : Question)
  | field (f : Field)
  | rarity
  | stage
  | phrase (p : Phrase)
  | keyword (k : Keyword)

namespace Pass

def run : Pass → Chart → Except TooManyDigits Chart
  | .toggle t, ch => pure (ch.readToggle t)
  | .flag f, ch => pure (ch.readFlag f)
  | .question q, ch => pure (ch.readQuestion q)
  | .field f, ch => ch.readField f
  | .rarity, ch => pure ch.readRarity
  | .stage, ch => ch.readStage
  | .phrase p, ch => pure (ch.readPhrase p)
  | .keyword k, ch => pure (ch.readKeyword k)

def kind : Pass → CommandKind
  | .toggle t => t.kind
  | .flag f => f.kind
  | .question q => q.kind
  | .field f => f.kind
  | .rarity => .rarity
  | .stage => .evolution
  | .phrase p => p.kind
  | .keyword k => k.kind

end Pass

/-- Every pass before the lone number, in the order `Chart.readAll` runs them. -/
def passes : List Pass :=
  toggles.map .toggle ++ flags.map .flag ++ questions.map .question ++ fields.map .field ++
    [.rarity, .stage] ++ phrases.map .phrase ++ keywords.map .keyword

def runPasses (ps : List Pass) (ch : Chart) : Except TooManyDigits Chart :=
  ps.foldlM (fun ch p => p.run ch) ch

theorem foldlM_run_map {α : Type} (l : List α) (mk : α → Pass) (f : Chart → α → Chart)
    (hf : ∀ a ch, (mk a).run ch = pure (f ch a)) (ch : Chart) :
    (l.map mk).foldlM (fun ch p => p.run ch) ch = pure (l.foldl f ch) := by
  rw [List.foldlM_map, ← List.foldlM_pure]
  exact congrArg (fun g => l.foldlM g ch) (funext fun ch => funext fun a => hf a ch)

theorem readAll_eq (ch : Chart) : ch.readAll = runPasses passes ch >>= Chart.readLoneNumber := by
  unfold runPasses passes
  rw [List.foldlM_append, List.foldlM_append, List.foldlM_append, List.foldlM_append,
    List.foldlM_append, List.foldlM_append,
    foldlM_run_map toggles Pass.toggle Chart.readToggle (fun _ _ => rfl), pure_bind,
    foldlM_run_map flags Pass.flag Chart.readFlag (fun _ _ => rfl), pure_bind,
    foldlM_run_map questions Pass.question Chart.readQuestion (fun _ _ => rfl), pure_bind]
  simp only [foldlM_run_map phrases Pass.phrase Chart.readPhrase (fun _ _ => rfl),
    foldlM_run_map keywords Pass.keyword Chart.readKeyword (fun _ _ => rfl), List.foldlM_map,
    List.foldlM_cons, List.foldlM_nil, bind_assoc, bind_pure, pure_bind]
  simp only [Pass.run, pure_bind]
  rfl

namespace Pass

variable {p : Pass} {ch ch' : Chart}

theorem grows (hp : p ∈ passes) (h : p.run ch = .ok ch') : ch.Grows ch' := by
  cases p with
  | toggle t =>
    simp only [run, pure, Except.pure, Except.ok.injEq] at h
    exact h ▸ Chart.grows_readToggle (by simpa [passes] using hp)
  | flag f =>
    simp only [run, pure, Except.pure, Except.ok.injEq] at h
    exact h ▸ Chart.grows_readFlag (by simpa [passes] using hp)
  | question q =>
    simp only [run, pure, Except.pure, Except.ok.injEq] at h
    exact h ▸ Chart.grows_readQuestion (by simpa [passes] using hp)
  | field f => exact Chart.grows_readField (by simpa [passes] using hp) h
  | rarity =>
    simp only [run, pure, Except.pure, Except.ok.injEq] at h
    exact h ▸ Chart.grows_readRarity
  | stage => exact Chart.grows_readStage h
  | phrase q =>
    simp only [run, pure, Except.pure, Except.ok.injEq] at h
    exact h ▸ Chart.grows_readPhrase (by simpa [passes] using hp)
  | keyword k =>
    simp only [run, pure, Except.pure, Except.ok.injEq] at h
    exact h ▸ Chart.grows_readKeyword (by simpa [passes] using hp)

/-- Every pass acts on each side of a glued chart as it would alone, when at most one side has
something for it and a side that has its kind already keeps the other side from reading it. -/
theorem glue (hp : p ∈ passes) {sep : List String} {a b x a' b' : Chart}
    (h : Chart.Glues sep a b x) (hs : Separator sep) (ha : a.Sound)
    (hnum : ∀ j, ∃ r, a.numberAt j = .ok r) (hA : p.run a = .ok a') (hB : p.run b = .ok b')
    (hq : a' = a ∨ b' = b) (hga : a.has p.kind = true → b' = b)
    (hgb : b.has p.kind = true → a' = a) : ∃ x', p.run x = .ok x' ∧ Chart.Glues sep a' b' x' := by
  cases p with
  | toggle t =>
    simp only [run, pure, Except.pure, Except.ok.injEq] at hA hB ⊢
    subst hA hB
    exact ⟨_, rfl, h.readToggle hs ha (by simpa [passes] using hp) hq⟩
  | flag f =>
    simp only [run, pure, Except.pure, Except.ok.injEq] at hA hB ⊢
    subst hA hB
    exact ⟨_, rfl, h.readFlag hs ha (by simpa [passes] using hp) hq hga hgb⟩
  | question q =>
    simp only [run, pure, Except.pure, Except.ok.injEq] at hA hB ⊢
    subst hA hB
    exact ⟨_, rfl, h.readQuestion hs ha (by simpa [passes] using hp) hq hga hgb⟩
  | field f => exact h.readField hs ha (by simpa [passes] using hp) hA hB hq
  | rarity =>
    simp only [run, pure, Except.pure, Except.ok.injEq] at hA hB ⊢
    subst hA hB
    exact ⟨_, rfl, h.readRarity hs ha hq⟩
  | stage => exact h.readStage hs ha hnum hA hB hq
  | phrase q =>
    simp only [run, pure, Except.pure, Except.ok.injEq] at hA hB ⊢
    subst hA hB
    exact ⟨_, rfl, h.readPhrase hs ha (by simpa [passes] using hp) hq hga hgb⟩
  | keyword k =>
    simp only [run, pure, Except.pure, Except.ok.injEq] at hA hB ⊢
    subst hA hB
    exact ⟨_, rfl, h.readKeyword hs ha (by simpa [passes] using hp) hq hga hgb⟩

end Pass

namespace Chart

variable {sep : List String}

/-- A chart that grows and glues the same two sides as before has not grown: a claim would have
added to the claims the sides account for. -/
theorem Glues.eq_of_grows {a b x x' : Chart} (h : Glues sep a b x) (h' : Glues sep a b x')
    (hg : x.Grows x') : x' = x := by
  rcases hg with rfl | ⟨c, ps, rfl, -⟩
  · rfl
  · have hl := h.claims.length_eq
    have hl' := h'.claims.length_eq
    simp only [claims_claim, List.length_append, List.length_singleton] at hl hl'
    omega

/-- The chart `x` holds the charts of the list one after another, with the separator between
each two. -/
inductive GluesAll (sep : List String) : List Chart → Chart → Prop
  | one (c : Chart) : GluesAll sep [c] c
  | cons {c y x : Chart} {cs : List Chart} : GluesAll sep cs y → Glues sep c y x →
      GluesAll sep (c :: cs) x

theorem GluesAll.cons_inv {c x : Chart} {cs : List Chart} (h : GluesAll sep (c :: cs) x) :
    (cs = [] ∧ x = c) ∨ ∃ y, GluesAll sep cs y ∧ Glues sep c y x := by
  cases h with
  | one => exact Or.inl ⟨rfl, rfl⟩
  | cons hy hg => exact Or.inr ⟨_, hy, hg⟩

theorem GluesAll.has {cs : List Chart} {x : Chart} {k : CommandKind} (h : GluesAll sep cs x)
    (hk : x.has k = true) : ∃ c ∈ cs, c.has k = true := by
  induction h with
  | one c => exact ⟨c, List.mem_singleton_self c, hk⟩
  | @cons c y x cs _ hg ih =>
    rw [hg.has, Bool.or_eq_true] at hk
    rcases hk with hc | hy
    · exact ⟨c, List.mem_cons_self, hc⟩
    · obtain ⟨d, hd, hdk⟩ := ih hy
      exact ⟨d, List.mem_cons_of_mem c hd, hdk⟩

end Chart

/-! ## Passes with nothing to read -/

namespace Chart

theorem stepBy_of_none {ch : Chart} {hit : Nat → Except TooManyDigits (Option Claim)}
    (h : ∀ i, hit i = .ok none) : ch.stepBy hit = .ok ch := by
  unfold stepBy
  rw [findSomeM?_eq_none fun i _ => h i]
  rfl

theorem has_start (ts : List String) (k : CommandKind) : (start ts).has k = false := by
  simp [has, start]

theorem tokens_start (ts : List String) : (start ts).tokens = ts := rfl

theorem positions_start (ts : List String) : (start ts).positions = List.range ts.length := rfl

theorem token_start (ts : List String) (i : Nat) : (start ts).token i = ts.getD i "" := rfl

theorem free_start (ts : List String) (i : Nat) : (start ts).free i = decide (i < ts.length) := by
  show (decide (i < ts.length) && !([] : List Nat).contains i) = decide (i < ts.length)
  cases decide (i < ts.length) <;> rfl

theorem token_mem {ch : Chart} {i : Nat} (hi : i < ch.tokens.length) : ch.token i ∈ ch.tokens := by
  simp only [token, List.getD_eq_getElem?_getD, List.getElem?_eq_getElem hi, Option.getD_some]
  exact List.getElem_mem hi

theorem token_start_mem {ts : List String} {i : Nat} (hi : i < ts.length) :
    (start ts).token i ∈ ts :=
  token_mem hi

theorem freeIn_start {ts ws : List String} (h : ∀ w ∈ ts, w ∉ ws) (i : Nat) :
    (start ts).freeIn i ws = false := by
  by_cases hi : i < ts.length
  · simp [freeIn, h _ (token_start_mem hi)]
  · simp [freeIn, free, start, hi]

theorem numberAt_ok {ch : Chart} (h : ∀ w ∈ ch.tokens, (tokenNumber? w).isOk = true) (i : Nat) :
    ∃ r, ch.numberAt i = .ok r := by
  unfold numberAt
  split
  · rename_i hf
    have hok := h _ (token_mem (free_iff.1 hf).1)
    revert hok
    cases tokenNumber? (ch.token i) with
    | error e => simp [Except.isOk, Except.toBool]
    | ok r => exact fun _ => ⟨r, rfl⟩
  · exact ⟨none, rfl⟩

theorem phraseAt_infix {ch : Chart} {p : Phrase} {i : Nat} (h : ch.phraseAt p i = true) :
    p.words <:+: ch.tokens := by
  simp only [phraseAt, Bool.and_eq_true, beq_iff_eq] at h
  refine ⟨ch.tokens.take i, (ch.tokens.drop i).drop p.words.length, ?_⟩
  calc ch.tokens.take i ++ p.words ++ (ch.tokens.drop i).drop p.words.length
      = ch.tokens.take i ++ ((ch.tokens.drop i).take p.words.length ++
          (ch.tokens.drop i).drop p.words.length) := by rw [h.1, List.append_assoc]
    _ = ch.tokens := by rw [List.take_append_drop, List.take_append_drop]

end Chart

namespace Pass

/-- The pass has nothing to start from at the word `w`: the word is none of its keywords or
first words, and, for the stage pass, no star word and no number too long to read. -/
def ignores : Pass → String → Bool
  | .toggle t, w => !t.keywords.contains w
  | .flag f, w => w != f.keyword
  | .question q, w => !q.first.contains w
  | .field f, w => !f.keywords.contains w
  | .rarity, w => (rarityOf? w).isNone
  | .stage, w => !starWords.contains w && (tokenNumber? w).isOk
  | .phrase p, w => !p.words.contains w
  | .keyword k, w => !k.words.contains w

theorem run_start_field {f : Field} {ts : List String} (h : ∀ w ∈ ts, tokenNumber? w = .ok none) :
    (Pass.field f).run (Chart.start ts) = .ok (Chart.start ts) := by
  have hnum : ∀ j, (Chart.start ts).numberAt j = .ok none := by
    intro j
    unfold Chart.numberAt
    split
    · rename_i hf
      exact h _ (Chart.token_start_mem (Chart.free_iff.1 hf).1)
    · rfl
  have hnear : ∀ i, (Chart.start ts).numberNear i = .ok none := fun i =>
    findSomeM?_eq_none fun j _ => by rw [hnum j]; rfl
  refine (Chart.readField_eq_stepBy _ f).symm.trans (Chart.stepBy_of_none fun i => ?_)
  simp only [Chart.fieldHit, Chart.fieldAt, hnear]
  split <;> rfl

theorem run_start_phrase {q : Phrase} (hq : q.words ≠ []) {ts : List String}
    (h : ¬q.words <:+: ts) : (Pass.phrase q).run (Chart.start ts) = .ok (Chart.start ts) := by
  have hx := Chart.readPhrase_eq_stepBy hq (Chart.has_start ts q.kind)
  rw [Chart.stepBy_of_none fun i => ?_] at hx
  · rw [Except.ok.injEq] at hx
    simp only [run, ← hx]
    rfl
  · simp only [Chart.phraseHit]
    split
    · rename_i hi
      exact absurd (Chart.phraseAt_infix hi) h
    · rfl

theorem eq_of_stepBy {ch ch' : Chart} {hit : Nat → Except TooManyDigits (Option Claim)}
    (hx : ch.stepBy hit = .ok ch') (h : ∀ i, hit i = .ok none) : ch' = ch := by
  rw [Chart.stepBy_of_none h, Except.ok.injEq] at hx
  exact hx.symm

/-- A pass that ignores every token of a chart of its own leaves it as it is. -/
theorem run_start (hp : p ∈ passes) {ts : List String} (h : ∀ w ∈ ts, p.ignores w = true) :
    p.run (Chart.start ts) = .ok (Chart.start ts) := by
  have hfree : ∀ i, ts.length ≤ i → (Chart.start ts).free i = false := fun i hi => by
    simp [Chart.free, Chart.start, Nat.not_lt.2 hi]
  cases p with
  | toggle t =>
    have hw : ∀ w ∈ ts, w ∉ t.keywords := fun w hw => by simpa [ignores] using h w hw
    rw [run, eq_of_stepBy (Chart.readToggle_eq_stepBy _ t) fun i => ?_]
    · rfl
    · simp [Chart.toggleHit, Chart.freeIn_start hw i]
      rfl
  | flag f =>
    have hw : ∀ i, ((Chart.start ts).token i == f.keyword && (Chart.start ts).free i) = false := by
      intro i
      by_cases hi : i < ts.length
      · have := h _ (Chart.token_start_mem hi)
        simp_all [ignores]
      · simp [hfree i (Nat.le_of_not_lt hi)]
    rw [run, eq_of_stepBy (Chart.readFlag_eq_stepBy (Chart.has_start ts f.kind)) fun i => ?_]
    · rfl
    · simp only [Chart.flagHit, hw, Bool.false_eq_true, if_false]
      rfl
  | question q =>
    have hw : ∀ w ∈ ts, w ∉ q.first := fun w hw => by simpa [ignores] using h w hw
    rw [run, eq_of_stepBy (Chart.readQuestion_eq_stepBy (Chart.has_start ts q.kind)) fun i => ?_]
    · rfl
    · simp only [Chart.questionHit, Chart.asks, Chart.freeIn_start hw i, Bool.false_and,
        Bool.false_eq_true, if_false]
      rfl
  | field f =>
    have hw : ∀ w ∈ ts, w ∉ f.keywords := fun w hw => by simpa [ignores] using h w hw
    rw [run, ← Chart.readField_eq_stepBy, Chart.stepBy_of_none fun i => ?_]
    simp only [Chart.fieldHit, Chart.fieldAt, Chart.freeIn_start hw i, Bool.false_eq_true,
      if_false]
    rfl
  | rarity =>
    have hr : ∀ i, (Chart.start ts).rarityHit i = none := by
      intro i
      by_cases hi : i < ts.length
      · have := h _ (Chart.token_start_mem hi)
        simp_all [ignores, Chart.rarityHit]
      · simp [Chart.rarityHit, hfree i (Nat.le_of_not_lt hi)]
    rw [run, eq_of_stepBy (Chart.readRarity_eq_stepBy _) fun i => by rw [hr]; rfl]
    rfl
  | stage =>
    have hw : ∀ w ∈ ts, w ∉ starWords := fun w hw => by
      have := h w hw
      simp_all [ignores]
    have hok : ∀ w ∈ ts, (tokenNumber? w).isOk = true := fun w hw => by
      have := h w hw
      simp_all [ignores]
    rw [run, ← Chart.readStage_eq_stepBy, Chart.stepBy_of_none fun i => ?_]
    obtain ⟨r, hr⟩ := Chart.numberAt_ok
      (show ∀ w ∈ (Chart.start ts).tokens, (tokenNumber? w).isOk = true from hok) i
    simp only [Chart.stageHit, Chart.stageAt_of_not_star hr (Chart.freeIn_start hw (i + 1))]
    split <;> rfl
  | phrase q =>
    have hq := Chart.phrases_ne_nil q (by simpa [passes] using hp)
    refine run_start_phrase hq fun hi => ?_
    obtain ⟨w, hw⟩ := List.exists_mem_of_ne_nil _ hq
    have := h w (hi.mem hw)
    simp_all [ignores]
  | keyword k =>
    have hw : ∀ w ∈ ts, w ∉ k.words := fun w hw => by simpa [ignores] using h w hw
    rw [run, eq_of_stepBy (Chart.readKeyword_eq_stepBy (Chart.has_start ts k.kind)) fun i => ?_]
    · rfl
    · simp only [Chart.keywordHit, Chart.freeIn_start hw i, Bool.false_eq_true, if_false]
      rfl

/-- The pass has nothing to read in the token list: it ignores every token, or it is a field
and no token is a number, or it is a phrase whose words do not stand in a row. -/
def quietOn (p : Pass) (ts : List String) : Bool :=
  ts.all p.ignores || match p with
    | .field _ => ts.all fun w => (tokenNumber? w matches .ok none)
    | .phrase q => !decide (q.words <:+: ts)
    | _ => false

theorem run_start_of_quietOn (hp : p ∈ passes) {ts : List String} (h : p.quietOn ts = true) :
    p.run (Chart.start ts) = .ok (Chart.start ts) := by
  unfold quietOn at h
  rw [Bool.or_eq_true, List.all_eq_true] at h
  rcases h with h | h
  · exact run_start hp h
  · cases p with
    | field f =>
      refine run_start_field fun w hw => ?_
      have := (List.all_eq_true.1 h) w hw
      revert this
      rcases tokenNumber? w with _ | _ | _ <;> simp
    | phrase q =>
      exact run_start_phrase (Chart.phrases_ne_nil q (by simpa [passes] using hp)) (by simpa using h)
    | _ => simp at h

theorem run_of_claimed (hp : p ∈ passes) {ch : Chart} (h : ∀ i, ch.free i = false) :
    p.run ch = .ok ch := by
  have hin : ∀ i ws, ch.freeIn i ws = false := fun i ws => by simp [Chart.freeIn, h i]
  have hnum : ∀ i, ch.numberAt i = .ok none := fun i => by simp [Chart.numberAt, h i]
  cases p with
  | toggle t =>
    rw [run, eq_of_stepBy (Chart.readToggle_eq_stepBy _ t) fun i => ?_]
    · rfl
    · simp [Chart.toggleHit, hin]
      rfl
  | flag f =>
    cases hk : ch.has f.kind
    · rw [run, eq_of_stepBy (Chart.readFlag_eq_stepBy hk) fun i => ?_]
      · rfl
      · simp [Chart.flagHit, h i]
        rfl
    · simp [run, Chart.readFlag, hk]
      rfl
  | question q =>
    cases hk : ch.has q.kind
    · rw [run, eq_of_stepBy (Chart.readQuestion_eq_stepBy hk) fun i => ?_]
      · rfl
      · simp [Chart.questionHit, Chart.asks, hin]
        rfl
    · simp [run, Chart.readQuestion, hk]
      rfl
  | field f =>
    rw [run, ← Chart.readField_eq_stepBy, Chart.stepBy_of_none fun i => ?_]
    simp only [Chart.fieldHit, Chart.fieldAt, hin, Bool.false_eq_true, if_false]
    rfl
  | rarity =>
    rw [run, eq_of_stepBy (Chart.readRarity_eq_stepBy _) fun i => ?_]
    · rfl
    · simp [Chart.rarityHit, h i]
      rfl
  | stage =>
    rw [run, ← Chart.readStage_eq_stepBy, Chart.stepBy_of_none fun i => ?_]
    simp only [Chart.stageHit, Chart.stageAt_of_numberAt (hnum i)]
    split <;> rfl
  | phrase q =>
    have hq := Chart.phrases_ne_nil q (by simpa [passes] using hp)
    cases hk : ch.has q.kind
    · rw [run, eq_of_stepBy (Chart.readPhrase_eq_stepBy hq hk) fun i => ?_]
      · rfl
      · obtain ⟨n, hn⟩ := Nat.exists_eq_add_one.2 (List.length_pos_iff.2 hq)
        simp [Chart.phraseHit, Chart.phraseAt, hn, List.range'_succ, h i]
        rfl
    · simp [run, Chart.readPhrase, hk]
      rfl
  | keyword k =>
    cases hk : ch.has k.kind
    · rw [run, eq_of_stepBy (Chart.readKeyword_eq_stepBy hk) fun i => ?_]
      · rfl
      · simp [Chart.keywordHit, hin]
        rfl
    · simp [run, Chart.readKeyword, hk]
      rfl

end Pass

/-! ## Words that are not numbers -/

set_option maxRecDepth 4000 in
theorem words_not_number : ∀ w ∈ Vocabulary.words, (tokenNumber? w matches .ok none) = true := by
  decide +kernel

theorem not_mem_words_of_number {w : String} {n : Nat} (h : tokenNumber? w = .ok (some n)) :
    w ∉ Vocabulary.words := fun hw => by
  have := words_not_number w hw
  rw [h] at this
  simp at this

/-- No pass has anything to start from at a word outside the vocabulary, except the stage pass
at a number too long to read. -/
theorem Pass.ignores_of_not_word {p : Pass} (hp : p ∈ passes) {w : String} (hw : w ∉ Vocabulary.words)
    (hs : p = .stage → (tokenNumber? w).isOk = true) : p.ignores w = true := by
  have hnot : ∀ {ws : List String}, (∀ v ∈ ws, v ∈ Vocabulary.words) → w ∉ ws :=
    fun hws hm => hw (hws w hm)
  cases p with
  | toggle t => simpa [Pass.ignores] using hnot (Chart.words_of_toggle t (by simpa [passes] using hp))
  | flag f =>
    have := (Chart.words_of_flag f (by simpa [passes] using hp)).1
    simp only [Pass.ignores, bne_iff_ne, ne_eq]
    rintro rfl
    exact hw this
  | question q =>
    simpa [Pass.ignores] using
      hnot (Chart.words_of_question q (by simpa [passes] using hp)).1
  | field f => simpa [Pass.ignores] using hnot (Chart.words_of_field f (by simpa [passes] using hp))
  | rarity =>
    cases hr : rarityOf? w with
    | none => simp [Pass.ignores, hr]
    | some r => exact absurd (Chart.words_of_rarity hr) hw
  | stage => simp [Pass.ignores, hs rfl, hnot Chart.words_of_starWords]
  | phrase q => simpa [Pass.ignores] using hnot (Chart.words_of_phrase q (by simpa [passes] using hp))
  | keyword k =>
    simpa [Pass.ignores] using hnot (Chart.words_of_keyword k (by simpa [passes] using hp))

theorem Pass.ignores_of_number {p : Pass} (hp : p ∈ passes) {w : String} {n : Nat}
    (h : tokenNumber? w = .ok (some n)) : p.ignores w = true :=
  Pass.ignores_of_not_word hp (not_mem_words_of_number h) fun _ => by
    simp [h, Except.isOk, Except.toBool]

theorem readLoneNumber_of_ne_nil {ch : Chart} (h : ch.claims ≠ []) : ch.readLoneNumber = .ok ch := by
  simp [Chart.readLoneNumber, h]
  rfl

theorem runPasses_of_claimed {ch : Chart} (h : ∀ i, ch.free i = false) :
    ∀ l : List Pass, (∀ p ∈ l, p ∈ passes) → runPasses l ch = .ok ch
  | [], _ => rfl
  | p :: l, hl => by
    rw [runPasses, List.foldlM_cons, Pass.run_of_claimed (hl p List.mem_cons_self) h]
    exact runPasses_of_claimed h l fun q hq => hl q (List.mem_cons_of_mem p hq)

end VoiceCalc
