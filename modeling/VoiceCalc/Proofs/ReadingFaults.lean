-- Where reading a token list can fail. A pass reads a token only at a free position or at one it
-- has checked to lie inside the list, so no reading looks past the end of the list, and the one
-- fault of a reading, a number written with more digits than the limit, is always a token of the
-- list: a list with no such token is always read.
import VoiceCalc.Proofs.PassRun

namespace VoiceCalc

/-! ## Faults of steps in `Except` -/

section Except

variable {ε α β : Type}

/-- A step in `Except` fails when its first part fails, or succeeds and the rest fails. -/
theorem except_bind_eq_error {x : Except ε α} {f : α → Except ε β} {e : ε} :
    x >>= f = .error e ↔ x = .error e ∨ ∃ a, x = .ok a ∧ f a = .error e := by
  cases x with
  | error e' => simp [bind, Except.bind]
  | ok a => simp [bind, Except.bind]

theorem findSomeM?_eq_error {f : α → Except ε (Option β)} :
    ∀ {l : List α} {e : ε}, l.findSomeM? f = .error e → ∃ a ∈ l, f a = .error e
  | [], _, h => by simp [pure, Except.pure] at h
  | a :: l, e, h => by
    rw [List.findSomeM?_cons, except_bind_eq_error] at h
    rcases h with h | ⟨r, hr, hk⟩
    · exact ⟨a, List.mem_cons_self, h⟩
    · cases r with
      | some b => simp [pure, Except.pure] at hk
      | none =>
        obtain ⟨a', ha', hf⟩ := findSomeM?_eq_error hk
        exact ⟨a', List.mem_cons_of_mem a ha', hf⟩

/-- A search whose hit is read off an optional value fails where the value does. -/
theorem except_map_eq_error {x : Except ε (Option α)} {g : α → β} {e : ε}
    (h : (do return (← x).map g) = Except.error e) : x = .error e := by
  rw [except_bind_eq_error] at h
  rcases h with h | ⟨r, -, hk⟩
  · exact h
  · simp [pure, Except.pure] at hk

/-- A search whose hit decides a step that cannot fail fails where the search read fails at one
member of the list. -/
theorem search_eq_error {γ δ : Type} {l : List γ} {read : γ → Except ε (Option α)}
    {g : γ → α → β} {k : Option β → Except ε δ} {e : ε} (hk : ∀ hit, ∃ d, k hit = .ok d)
    (h : ((l.findSomeM? fun i => do return (← read i).map (g i)) >>= k) = .error e) :
    ∃ i ∈ l, read i = .error e := by
  rw [except_bind_eq_error] at h
  rcases h with h | ⟨hit, -, hkh⟩
  · obtain ⟨i, hi, hr⟩ := findSomeM?_eq_error h
    exact ⟨i, hi, except_map_eq_error hr⟩
  · obtain ⟨d, hd⟩ := hk hit
    rw [hd] at hkh
    cases hkh

end Except

/-- A token that does not read as a number is a run of ASCII digits longer than the limit, and
the fault counts its digits. -/
theorem tokenNumber?_eq_error {t : String} {e : TooManyDigits} (h : tokenNumber? t = .error e) :
    t.toList ≠ [] ∧ (∀ c ∈ t.toList, c.isDigit) ∧ e.count = t.length ∧ digitLimit < e.count := by
  simp only [tokenNumber?] at h
  split at h
  · rename_i hd
    simp only [Bool.and_eq_true, Bool.not_eq_true', List.isEmpty_eq_false_iff,
      List.all_eq_true] at hd
    split at h
    · cases h
    · rename_i hlen
      simp only [Except.error.injEq] at h
      subst h
      exact ⟨hd.1, hd.2, String.length_toList.symm ▸ rfl, by simpa using hlen⟩
  · cases h

namespace Chart

variable {ch : Chart} {i : Nat} {e : TooManyDigits}

/-- The fault comes from a free position whose token has too many digits. -/
def FaultAt (ch : Chart) (e : TooManyDigits) : Prop :=
  ∃ i, ch.free i = true ∧ tokenNumber? (ch.token i) = .error e

theorem faultAt_numberAt (h : ch.numberAt i = .error e) : ch.FaultAt e := by
  unfold numberAt at h
  split at h
  · rename_i hf
    exact ⟨i, hf, h⟩
  · cases h

theorem faultAt_numberNear (h : ch.numberNear i = .error e) : ch.FaultAt e := by
  obtain ⟨j, -, hj⟩ := findSomeM?_eq_error h
  exact faultAt_numberAt (except_map_eq_error hj)

theorem faultAt_fieldAt {f : Vocabulary.Field} (h : ch.fieldAt f i = .error e) : ch.FaultAt e := by
  unfold fieldAt at h
  split at h
  · rw [except_bind_eq_error] at h
    rcases h with h | ⟨r, -, hk⟩
    · exact faultAt_numberNear h
    · cases r <;> simp [pure, Except.pure] at hk
  · simp [pure, Except.pure] at h

theorem faultAt_readField {f : Vocabulary.Field} (h : ch.readField f = .error e) :
    ch.FaultAt e := by
  obtain ⟨j, -, hj⟩ := search_eq_error (fun hit => by cases hit <;> exact ⟨_, rfl⟩) h
  exact faultAt_fieldAt hj

theorem faultAt_stageAt (h : ch.stageAt i = .error e) : ch.FaultAt e := by
  unfold stageAt at h
  rw [except_bind_eq_error] at h
  rcases h with h | ⟨r, -, hk⟩
  · exact faultAt_numberAt h
  · split at hk <;> simp [pure, Except.pure] at hk

theorem faultAt_readStage (h : ch.readStage = .error e) : ch.FaultAt e := by
  obtain ⟨j, -, hj⟩ := search_eq_error (fun hit => by cases hit <;> exact ⟨_, rfl⟩) h
  exact faultAt_stageAt hj

theorem faultAt_readLoneNumber (h : ch.readLoneNumber = .error e) : ch.FaultAt e := by
  unfold readLoneNumber at h
  split at h
  · simp [pure, Except.pure] at h
  · rw [except_bind_eq_error] at h
    rcases h with h | ⟨hit, -, hk⟩
    · obtain ⟨j, -, hj⟩ := findSomeM?_eq_error h
      rw [except_bind_eq_error] at hj
      rcases hj with hj | ⟨r, -, hk⟩
      · exact faultAt_numberAt hj
      · simp [pure, Except.pure] at hk
    · cases hit <;> simp [pure, Except.pure] at hk

end Chart

/-! ## Faults of the passes -/

/-- A pass fails only reading a number at a free position of the chart it runs on. -/
theorem Pass.faultAt_run {p : Pass} {ch : Chart} {e : TooManyDigits} (h : p.run ch = .error e) :
    ch.FaultAt e := by
  cases p with
  | field f => exact Chart.faultAt_readField h
  | stage => exact Chart.faultAt_readStage h
  | toggle _ | flag _ | question _ | rarity | phrase _ | keyword _ => cases h

theorem faultAt_runPasses {e : TooManyDigits} : ∀ {ps : List Pass} {ch : Chart},
    (∀ p ∈ ps, p ∈ passes) → runPasses ps ch = .error e →
      ∃ ch' : Chart, ch'.tokens = ch.tokens ∧ ch'.FaultAt e
  | [], _, _, h => by simp [runPasses, pure, Except.pure] at h
  | p :: ps, ch, hps, h => by
    rw [runPasses, List.foldlM_cons, except_bind_eq_error] at h
    rcases h with h | ⟨mid, hmid, hrest⟩
    · exact ⟨ch, rfl, Pass.faultAt_run h⟩
    · obtain ⟨ch', htok, hfault⟩ :=
        faultAt_runPasses (fun q hq => hps q (List.mem_cons_of_mem p hq)) hrest
      have hgrow := Pass.grows (hps p List.mem_cons_self) hmid
      exact ⟨ch', htok.trans (Chart.tokens_of_grows hgrow), hfault⟩

/-! ## Reads inside the list -/

namespace Chart

variable {ch : Chart} {i : Nat} {w : String}

/-- The chart with another word past the end of its list. -/
def withPastEnd (ch : Chart) (w : String) : Chart := { ch with pastEnd := w }

@[simp] theorem tokens_withPastEnd : (ch.withPastEnd w).tokens = ch.tokens := rfl
@[simp] theorem claims_withPastEnd : (ch.withPastEnd w).claims = ch.claims := rfl
@[simp] theorem free_withPastEnd : (ch.withPastEnd w).free i = ch.free i := rfl
@[simp] theorem positions_withPastEnd : (ch.withPastEnd w).positions = ch.positions := rfl
@[simp] theorem has_withPastEnd (k : CommandKind) : (ch.withPastEnd w).has k = ch.has k := rfl

/-- A position inside the list reads its own token, whatever the word past the end. -/
theorem token_withPastEnd (h : i < ch.tokens.length) : (ch.withPastEnd w).token i = ch.token i := by
  simp only [token, tokens_withPastEnd, List.getD_eq_getElem?_getD, List.getElem?_eq_getElem h,
    Option.getD_some]

@[simp] theorem freeIn_withPastEnd (ws : List String) :
    (ch.withPastEnd w).freeIn i ws = ch.freeIn i ws := by
  unfold freeIn
  rw [free_withPastEnd]
  cases hf : ch.free i with
  | false => rfl
  | true => rw [Bool.true_and, Bool.true_and, token_withPastEnd (free_iff.1 hf).1]

@[simp] theorem numberAt_withPastEnd : (ch.withPastEnd w).numberAt i = ch.numberAt i := by
  unfold numberAt
  rw [free_withPastEnd]
  split
  · rename_i hf
    rw [token_withPastEnd (free_iff.1 hf).1]
  · rfl

@[simp] theorem switchBeside_withPastEnd : (ch.withPastEnd w).switchBeside i = ch.switchBeside i := by
  simp only [switchBeside, freeIn_withPastEnd]

theorem readToggle_withPastEnd (t : Vocabulary.Toggle) :
    (ch.withPastEnd w).readToggle t = (ch.readToggle t).withPastEnd w := by
  simp only [readToggle, positions_withPastEnd, freeIn_withPastEnd, switchBeside_withPastEnd]
  split <;> rfl

/-- A pass that reads nothing once a command of its kind is there keeps to the word past the end
when it does so on charts without that kind. -/
theorem withPastEnd_guarded {k : CommandKind} {s : Chart → Chart}
    (hguard : ∀ ch : Chart, ch.has k = true → s ch = ch)
    (hfree : ch.has k = false → s (ch.withPastEnd w) = (s ch).withPastEnd w) :
    s (ch.withPastEnd w) = (s ch).withPastEnd w := by
  cases hk : ch.has k
  · exact hfree hk
  · rw [hguard _ ((has_withPastEnd k).trans hk), hguard ch hk]

theorem readFlag_withPastEnd (f : Vocabulary.Flag) :
    (ch.withPastEnd w).readFlag f = (ch.readFlag f).withPastEnd w := by
  refine withPastEnd_guarded (k := f.kind) (s := (·.readFlag f))
    (fun ch hk => by simp only [readFlag, hk, if_true]) fun hk => ?_
  have hfind : ch.positions.find? (fun i => (ch.withPastEnd w).token i == f.keyword && ch.free i) =
      ch.positions.find? (fun i => ch.token i == f.keyword && ch.free i) :=
    find?_congr fun i hi => by rw [token_withPastEnd (List.mem_range.1 hi)]
  simp only [readFlag, has_withPastEnd, positions_withPastEnd, free_withPastEnd, freeIn_withPastEnd,
    hfind, hk, if_false, Bool.false_eq_true]
  split <;> rfl

theorem asks_withPastEnd (q : Vocabulary.Question) :
    (ch.withPastEnd w).asks q = ch.asks q :=
  funext fun i => by simp only [asks, freeIn_withPastEnd]

theorem readQuestion_withPastEnd (q : Vocabulary.Question) :
    (ch.withPastEnd w).readQuestion q = (ch.readQuestion q).withPastEnd w := by
  refine withPastEnd_guarded (k := q.kind) (s := (·.readQuestion q))
    (fun ch hk => by simp only [readQuestion, hk, if_true]) fun hk => ?_
  have hfind : (List.range (ch.tokens.length - 2)).find? ((ch.withPastEnd w).asks q) =
      (List.range (ch.tokens.length - 2)).find? (ch.asks q) := by
    rw [asks_withPastEnd]
  simp only [readQuestion, has_withPastEnd, tokens_withPastEnd, hfind, hk, if_false,
    Bool.false_eq_true]
  split <;> rfl

@[simp] theorem numberNear_withPastEnd : (ch.withPastEnd w).numberNear i = ch.numberNear i := by
  simp only [numberNear, numberAt_withPastEnd]

@[simp] theorem fieldAt_withPastEnd (f : Vocabulary.Field) :
    (ch.withPastEnd w).fieldAt f i = ch.fieldAt f i := by
  simp only [fieldAt, freeIn_withPastEnd, numberNear_withPastEnd]

theorem readField_withPastEnd (f : Vocabulary.Field) :
    (ch.withPastEnd w).readField f = (·.withPastEnd w) <$> ch.readField f := by
  unfold readField
  simp only [positions_withPastEnd, fieldAt_withPastEnd, map_bind]
  congr 1
  funext hit
  split <;> rfl

theorem readRarity_withPastEnd : (ch.withPastEnd w).readRarity = ch.readRarity.withPastEnd w := by
  have hfind : (ch.withPastEnd w).positions.findSome? (fun i => if (ch.withPastEnd w).free i then
        (Vocabulary.rarityOf? ((ch.withPastEnd w).token i)).map fun r => (i, r) else none) =
      ch.positions.findSome? (fun i =>
        if ch.free i then (Vocabulary.rarityOf? (ch.token i)).map fun r => (i, r) else none) :=
    findSome?_congr fun i hi => by
      rw [positions_withPastEnd] at hi
      rw [free_withPastEnd, token_withPastEnd (List.mem_range.1 hi)]
  unfold readRarity
  rw [hfind]
  dsimp only
  split <;> rfl

@[simp] theorem stageAt_withPastEnd : (ch.withPastEnd w).stageAt i = ch.stageAt i := by
  simp only [stageAt, numberAt_withPastEnd, freeIn_withPastEnd]

theorem readStage_withPastEnd : (ch.withPastEnd w).readStage = (·.withPastEnd w) <$> ch.readStage := by
  unfold readStage
  simp only [tokens_withPastEnd, stageAt_withPastEnd, map_bind]
  congr 1
  funext hit
  split <;> rfl

@[simp] theorem phraseAt_withPastEnd (p : Vocabulary.Phrase) :
    (ch.withPastEnd w).phraseAt p = ch.phraseAt p := rfl

theorem readPhrase_withPastEnd (p : Vocabulary.Phrase) :
    (ch.withPastEnd w).readPhrase p = (ch.readPhrase p).withPastEnd w := by
  refine withPastEnd_guarded (k := p.kind) (s := (·.readPhrase p))
    (fun ch hk => by simp only [readPhrase, hk, if_true]) fun hk => ?_
  simp only [readPhrase, has_withPastEnd, tokens_withPastEnd, phraseAt_withPastEnd, hk, if_false,
    Bool.false_eq_true]
  split <;> rfl

theorem readKeyword_withPastEnd (k : Vocabulary.Keyword) :
    (ch.withPastEnd w).readKeyword k = (ch.readKeyword k).withPastEnd w := by
  refine withPastEnd_guarded (k := k.kind) (s := (·.readKeyword k))
    (fun ch hk => by simp only [readKeyword, hk, if_true]) fun hk => ?_
  simp only [readKeyword, has_withPastEnd, positions_withPastEnd, freeIn_withPastEnd, hk, if_false,
    Bool.false_eq_true]
  split <;> rfl

theorem readLoneNumber_withPastEnd :
    (ch.withPastEnd w).readLoneNumber = (·.withPastEnd w) <$> ch.readLoneNumber := by
  unfold readLoneNumber
  cases hc : ch.claims.isEmpty with
  | false => simp only [claims_withPastEnd, hc, Bool.not_false, if_true]; rfl
  | true =>
    simp only [claims_withPastEnd, hc, Bool.not_true, Bool.false_eq_true, if_false,
      positions_withPastEnd, numberAt_withPastEnd, map_bind]
    congr 1
    funext hit
    split <;> rfl

end Chart

/-- A pass reads only positions inside the list, so the word past the end changes nothing it does. -/
theorem Pass.run_withPastEnd (p : Pass) (ch : Chart) (w : String) :
    p.run (ch.withPastEnd w) = (·.withPastEnd w) <$> p.run ch := by
  cases p with
  | toggle t => exact congrArg pure (Chart.readToggle_withPastEnd t)
  | flag f => exact congrArg pure (Chart.readFlag_withPastEnd f)
  | question q => exact congrArg pure (Chart.readQuestion_withPastEnd q)
  | field f => exact Chart.readField_withPastEnd f
  | rarity => exact congrArg pure Chart.readRarity_withPastEnd
  | stage => exact Chart.readStage_withPastEnd
  | phrase q => exact congrArg pure (Chart.readPhrase_withPastEnd q)
  | keyword k => exact congrArg pure (Chart.readKeyword_withPastEnd k)

theorem runPasses_withPastEnd (w : String) : ∀ (ps : List Pass) (ch : Chart),
    runPasses ps (ch.withPastEnd w) = (·.withPastEnd w) <$> runPasses ps ch
  | [], _ => rfl
  | p :: ps, ch => by
    rw [runPasses, runPasses, List.foldlM_cons, List.foldlM_cons, p.run_withPastEnd]
    cases p.run ch with
    | error e => rfl
    | ok ch' => exact runPasses_withPastEnd w ps ch'

theorem Chart.readAll_withPastEnd (ch : Chart) (w : String) :
    (ch.withPastEnd w).readAll = (·.withPastEnd w) <$> ch.readAll := by
  rw [readAll_eq, readAll_eq, runPasses_withPastEnd]
  cases runPasses passes ch with
  | error e => rfl
  | ok ch' => exact Chart.readLoneNumber_withPastEnd

/-! ## The faults of a reading -/

/-- The fault of a reading is a token of the list: a run of ASCII digits longer than the limit,
whose digits the fault counts. -/
theorem readTokens_fault {tokens : List String} {e : TooManyDigits}
    (h : readTokens tokens = .error e) :
    ∃ (i : Nat) (t : String), tokens[i]? = some t ∧ t.toList ≠ [] ∧ (∀ c ∈ t.toList, c.isDigit) ∧
      e.count = t.length ∧ digitLimit < e.count := by
  unfold readTokens claimsOf at h
  rw [readAll_eq] at h
  have hchart : ∃ ch : Chart, ch.tokens = tokens ∧ ch.FaultAt e := by
    cases hrun : runPasses passes (Chart.start tokens) with
    | error x =>
      simp only [hrun, bind, Except.bind, Functor.map, Except.map, Except.error.injEq] at h
      subst h
      exact faultAt_runPasses (fun p hp => hp) hrun
    | ok ch =>
      cases hlone : ch.readLoneNumber with
      | error x =>
        simp only [hrun, hlone, bind, Except.bind, Functor.map, Except.map, Except.error.injEq] at h
        subst h
        have htok : ch.tokens = tokens := foldlM_keeps (fun c : Chart => c.tokens = tokens)
          (fun p hp c c' hc he => (Chart.tokens_of_grows (Pass.grows hp he)).trans hc) rfl hrun
        exact ⟨ch, htok, Chart.faultAt_readLoneNumber hlone⟩
      | ok ch' => simp [hrun, hlone, bind, Except.bind, Functor.map, Except.map] at h
  obtain ⟨ch, htok, i, hfree, hnum⟩ := hchart
  exact ⟨i, ch.token i, htok ▸ Chart.getElem?_of_free hfree, tokenNumber?_eq_error hnum⟩

/-- The passes read a list that has no number of more digits than the limit without fault; a
number of more digits that a pass reads makes the reading fail, naming the count of its digits.
No pass reads a position outside the list: whatever word a position past the end reads as, the
reading is the same. -/
theorem reading_fails_only_on_a_long_number (tokens : List String) :
    (∀ e, readTokens tokens = .error e →
        ∃ (i : Nat) (t : String), tokens[i]? = some t ∧ t.toList ≠ [] ∧
          (∀ c ∈ t.toList, c.isDigit) ∧ e.count = t.length ∧ digitLimit < e.count) ∧
      ((∀ t ∈ tokens, (∀ c ∈ t.toList, c.isDigit) → t.length ≤ digitLimit) →
        ∃ cs, readTokens tokens = .ok cs) ∧
      ∀ w, (fun ch : Chart => ch.claims.map (·.command)) <$> ((Chart.start tokens).withPastEnd w).readAll =
        readTokens tokens := by
  refine ⟨fun e h => readTokens_fault h, fun hshort => ?short, fun w => ?pastEnd⟩
  case pastEnd =>
    rw [Chart.readAll_withPastEnd]
    unfold readTokens claimsOf
    cases (Chart.start tokens).readAll <;> rfl
  case short =>
    cases hr : readTokens tokens with
    | ok cs => exact ⟨cs, rfl⟩
    | error e =>
      obtain ⟨i, t, hi, -, hdig, hcount, hlim⟩ := readTokens_fault hr
      have := hshort t (List.mem_of_getElem? hi) hdig
      omega

/-! ## A number one digit too long -/

set_option maxRecDepth 4000 in
theorem words_short : ∀ w ∈ Vocabulary.words, w.length < 20 := by
  decide +kernel

/-- A lone token outside the vocabulary gives the passes before the lone number nothing to read:
each ignores it, and the stage pass needs a second token. -/
theorem runPasses_single {t : String} (ht : t ∉ Vocabulary.words) :
    ∀ ps : List Pass, (∀ p ∈ ps, p ∈ passes) →
      runPasses ps (Chart.start [t]) = .ok (Chart.start [t])
  | [], _ => rfl
  | p :: ps, hps => by
    have hp := hps p List.mem_cons_self
    have hrun : p.run (Chart.start [t]) = .ok (Chart.start [t]) := by
      cases p with
      | stage => rfl
      | _ =>
        refine Pass.run_start hp fun w hw => ?_
        rw [List.mem_singleton] at hw
        exact Pass.ignores_of_not_word hp (hw ▸ ht) nofun
    rw [runPasses, List.foldlM_cons, hrun]
    exact runPasses_single ht ps fun q hq => hps q (List.mem_cons_of_mem p hq)

/-- A lone token outside the vocabulary that is a number too long to read makes the reading fail:
the passes before the last have nothing to read, and the last reads the number. -/
theorem readTokens_single_fault {t : String} {e : TooManyDigits} (ht : t ∉ Vocabulary.words)
    (hn : tokenNumber? t = .error e) : readTokens [t] = .error e := by
  have hat : (Chart.start [t]).numberAt 0 = .error e := hn
  have hlone : (Chart.start [t]).readLoneNumber = .error e := by
    unfold Chart.readLoneNumber
    rw [if_neg (by simp [Chart.start])]
    simp only [Chart.positions, Chart.start, List.length_singleton, List.range_one,
      List.findSomeM?_cons]
    rw [show (⟨[t], [], ""⟩ : Chart) = Chart.start [t] from rfl, hat]
    rfl
  unfold readTokens claimsOf
  rw [readAll_eq, runPasses_single ht passes fun _ h => h]
  rw [show (Except.ok (Chart.start [t]) >>= Chart.readLoneNumber) = .error e from hlone]
  rfl

/-- A lone token of 4301 ones: no pass before the last reads it, and the last one fails on its
digits, so the reading of this list gives no commands. -/
theorem lone_number_beyond_the_limit_fails :
    readTokens [String.ofList (List.replicate 4301 '1')] = .error ⟨4301⟩ := by
  have hlen : (String.ofList (List.replicate 4301 '1')).length = 4301 := by
    rw [String.length_ofList, List.length_replicate]
  have ht : String.ofList (List.replicate 4301 '1') ∉ Vocabulary.words := fun hw => by
    have := words_short _ hw
    omega
  have hnum : tokenNumber? (String.ofList (List.replicate 4301 '1')) = .error ⟨4301⟩ := by
    unfold tokenNumber?
    dsimp only
    rw [String.toList_ofList, List.all_replicate, List.length_replicate]
    rfl
  exact readTokens_single_fault ht hnum

end VoiceCalc
