-- Audio feedback and the speaker only ever add spoken texts. Two engines that differ only in the
-- audio feedback flag, the speaker and what was spoken give the same answers along any run, but for
-- the flag that toggling audio feedback gives, and leave engines that differ in those parts only,
-- as long as the odds the host reports can be written as doubles, as odds reported as doubles
-- always can. What is spoken along a run is the sentence of the odds, once for each executed
-- transcript that asks for the odds while audio feedback is on, when the speaker works, the host
-- has the odds control and both odds are reported.
import VoiceCalc.Proofs.HostCalls

namespace VoiceCalc

/-! ## Odds that can be written -/

/-- A percentage that can be written as a double. -/
def Percent.Writable (p : Percent) : Prop := p.toFloat?.isSome = true

@[simp] theorem Percent.writable_real (x : Float) : (Percent.real x).Writable := rfl

/-- Each of the odds is absent or can be written as a double. -/
def CalcState.OddsWritable (s : CalcState) : Prop :=
  ∀ p, s.perRefreshOdds = some p ∨ s.totalOdds = some p → p.Writable

namespace Calculator

variable {c c' : Calculator}

theorem describeOdds_ne_tooLarge (h : c.state.OddsWritable) : c.describeOdds ≠ .error .tooLarge := by
  unfold describeOdds
  cases hreq : c.require "odds" with
  | error m => simp [Except.mapError, bind, Except.bind]
  | ok u =>
    simp only [ok_mapError, ok_bind]
    split
    · rename_i p t hp ht
      obtain ⟨pf, hpf⟩ := Option.isSome_iff_exists.mp (h p (.inl hp))
      obtain ⟨tf, htf⟩ := Option.isSome_iff_exists.mp (h t (.inr ht))
      simp [hpf, htf, pure, Except.pure]
    · simp [pure, Except.pure]

/-- Odds that can be written give a sentence exactly when the host has the odds control and both
odds are reported. -/
theorem describeOdds_some_iff (h : c.state.OddsWritable) :
    (∃ text, c.describeOdds = .ok (some text)) ↔
      c.controls.contains "odds" = true ∧ c.state.perRefreshOdds.isSome ∧ c.state.totalOdds.isSome := by
  unfold describeOdds require
  by_cases hc : c.controls.contains "odds" = true
  · simp only [hc, if_true, ok_mapError, ok_bind, true_and]
    split
    · rename_i p t hp ht
      obtain ⟨pf, hpf⟩ := Option.isSome_iff_exists.mp (h p (.inl hp))
      obtain ⟨tf, htf⟩ := Option.isSome_iff_exists.mp (h t (.inr ht))
      simp [hp, ht, hpf, htf, pure, Except.pure]
    · rename_i hn
      simp only [pure, Except.pure, Except.ok.injEq, reduceCtorEq, exists_false, false_iff, not_and,
        Option.isSome_iff_exists]
      rintro ⟨p, hp⟩ ⟨t, ht⟩
      exact hn p t hp ht
  · rw [if_neg hc, error_mapError]
    constructor
    · rintro ⟨text, h'⟩
      cases h'
    · rintro ⟨h', -⟩
      exact absurd h' hc

theorem apply_odds {cmd : Command} (h : c.apply cmd = .ok c') :
    (c'.state.perRefreshOdds = c.state.perRefreshOdds ∧ c'.state.totalOdds = c.state.totalOdds) ∨
      c'.state = CalcState.fresh := by
  obtain ⟨kind, value, fb⟩ := cmd
  cases kind <;> simp only [apply] at h <;> try (rw [except_bind_eq_ok] at h; obtain ⟨n, -, h⟩ := h)
  all_goals
    simp only [mapError_eq_ok, selectLevel, stepLevel, selectRarity, selectEvolution, setNumber,
      setSwitch, readOdds, clearAll, guarded_ok] at h
    obtain ⟨-, rfl⟩ := h
  case reset => exact .inr rfl
  all_goals exact .inl ⟨rfl, rfl⟩

/-- Commands keep the odds writable: they leave the odds alone or clear them. -/
theorem apply_oddsWritable {cmd : Command} (hw : c.state.OddsWritable) (h : c.apply cmd = .ok c') :
    c'.state.OddsWritable := by
  intro p hp
  rcases apply_odds h with ⟨hpr, hto⟩ | hf
  · rw [hpr, hto] at hp
    exact hw p hp
  · rw [hf] at hp
    rcases hp with h | h <;> cases h

theorem dispatch_oddsWritable {cs : List Command} (hw : c.state.OddsWritable) :
    (c.dispatch cs).1.state.OddsWritable :=
  dispatch_keeps (fun c => c.state.OddsWritable) (fun _ _ _ _ hc ha => apply_oddsWritable hc ha) hw

end Calculator

/-! ## The silent engine -/

namespace Engine

/-- The engine without audio feedback, without a speaker and with nothing spoken. -/
def silent (e : Engine) : Engine := { e with audio := false, speaker := none, spoken := [] }

@[simp] theorem silent_session (e : Engine) : e.silent.session = e.session := rfl
@[simp] theorem silent_recognizer (e : Engine) : e.silent.recognizer = e.recognizer := rfl
@[simp] theorem silent_capturing (e : Engine) : e.silent.capturing = e.capturing := rfl
@[simp] theorem silent_calculator (e : Engine) : e.silent.calculator = e.calculator := rfl

variable {e : Engine} {t : Transcript}

theorem oddsFault_eq_false (h : e.calculator.state.OddsWritable) : e.oddsFault = false := by
  unfold oddsFault
  split
  · rename_i hd
    exact absurd hd (Calculator.describeOdds_ne_tooLarge h)
  · rfl

/-- Interpreting a transcript on the silent engine is interpreting it and then silencing the
engine, when the odds can be written: reading them aloud only adds what the speaker says. -/
theorem process_silent (hw : e.calculator.state.OddsWritable) :
    (process t).run e.silent = mapState silent ((process t).run e) := by
  cases hi : e.gate.interpret t with
  | error x =>
    rw [process_run_unread hi, process_run_unread (e := e.silent) hi]
    rfl
  | ok r =>
    by_cases hx : r.outcome = .executed
    · obtain ⟨failed, hf⟩ := Calculator.dispatch_converts (c := e.calculator) (Gate.interpret_ok hi).2
      rw [process_run_executed hi hx hf, process_run_executed (e := e.silent) hi hx hf]
      have hfault : (e.enter r).oddsFault = false :=
        oddsFault_eq_false (Calculator.dispatch_oddsWritable hw)
      have hquiet : (e.silent.audio && r.asksOdds) = false := rfl
      rw [hquiet, if_neg Bool.false_ne_true, hfault, if_neg Bool.false_ne_true]
      split <;> rfl
    · rw [process_run_quiet hi hx, process_run_quiet (e := e.silent) hi hx]
      rfl

/-- Closing a session on the silent engine is closing it and then silencing the engine. -/
theorem finishSession_silent (hw : e.calculator.state.OddsWritable) :
    finishSession.run e.silent = mapState silent (finishSession.run e) := by
  rw [finishSession_run, finishSession_run]
  simp only [silent_session]
  rcases e.session.bind Session.transcript with _ | t
  · dsimp only
    by_cases hl : (e.status.text == listeningText) = true
    · rw [if_pos hl, if_pos (show (e.silent.status.text == listeningText) = true from hl)]
      rfl
    · rw [if_neg hl, if_neg (show ¬(e.silent.status.text == listeningText) = true from hl)]
      rfl
  · have hs : ({ e.silent with session := none } : Engine) = ({ e with session := none } : Engine).silent := rfl
    dsimp only
    rw [hs, process_silent (e := { e with session := none }) hw]
    cases (process t).run { e with session := none } <;> rfl

theorem onEnd_silent (hw : e.calculator.state.OddsWritable) :
    onEnd.run e.silent = mapState silent (onEnd.run e) := by
  rw [onEnd_run, onEnd_run, silent_capturing]
  split
  · rw [run_map, run_map, finishSession_silent hw]
    cases finishSession.run e <;> rfl
  · rfl

/-- Ending capture on the silent engine is ending it and then silencing the engine, whoever
closes the session. -/
theorem endCapture_silent (hw : e.calculator.state.OddsWritable) :
    endCapture.run e.silent = mapState silent (endCapture.run e) := by
  by_cases hc : e.capturing = true
  · rw [endCapture_run_open hc, endCapture_run_open (e := e.silent) hc]
    have hs : stopped e.silent = (stopped e).silent := rfl
    rw [hs, finishSession_silent (e := stopped e) hw, silent_recognizer, after_mapState]
    split <;> rfl
  · rw [endCapture_run, endCapture_run, silent_capturing, if_neg hc, if_neg hc]
    rfl

theorem close_silent : Engine.close.run e.silent = mapState silent (Engine.close.run e) := by
  rw [close_run, close_run, silent_capturing]
  split
  · rw [stopRecognizer_idle rfl, stopRecognizer_idle rfl]
    rfl
  · rfl

theorem beginCapture_silent : beginCapture.run e.silent = mapState silent (beginCapture.run e) := by
  rw [beginCapture_run, beginCapture_run, silent_recognizer, silent_capturing]
  rcases e.recognizer with _ | rec
  · rfl
  · dsimp only
    split
    · rfl
    · rcases rec.start with msg | rec' <;> rfl

end Engine

/-! ## One call on two engines -/

/-- Silencing the engine after a step carries over to the step with its answer mapped. -/
theorem run_map_silent {α β : Type} (f : α → β) {s : Step α} {e : Engine}
    (h : s.run e.silent = Engine.mapState Engine.silent (s.run e)) :
    (f <$> s).run e.silent = Engine.mapState Engine.silent ((f <$> s).run e) := by
  rw [run_map, run_map, h]
  cases s.run e <;> rfl

/-- Every call but a toggle of audio feedback, made on the silent engine, is the call made and the
engine then silenced, when the odds can be written. -/
theorem Op.step_silent (op : Op) (hop : op ≠ .toggleAudio) {e : Engine}
    (hw : e.calculator.state.OddsWritable) :
    op.step.run e.silent = Engine.mapState Engine.silent (op.step.run e) := by
  cases op with
  | begin => exact run_map_silent _ Engine.beginCapture_silent
  | finish => exact run_map_silent _ (Engine.endCapture_silent hw)
  | heard r => rfl
  | failed code => rfl
  | ended => exact run_map_silent _ (Engine.onEnd_silent hw)
  | close => exact run_map_silent _ Engine.close_silent
  | process t => exact run_map_silent _ (Engine.process_silent hw)
  | simulate t =>
    refine run_map_silent _ ?_
    rw [Engine.simulate_eq]
    exact run_map_silent _ (Engine.process_silent hw)
  | advance seconds => rfl
  | readStatus => rfl
  | toggleAudio => exact absurd rfl hop

namespace HostOp

/-- A call's answer with the flag that a toggle of audio feedback gives left out. -/
def muted : HostOp → Except EngineFault Answer → Except EngineFault Answer
  | .call .toggleAudio, _ => .ok .done
  | _, a => a

/-- The run as audio feedback and the speaker cannot change it: each call's answer, with the flag
that a toggle of audio feedback gives left out, and each engine silenced. -/
def observed (ops : List HostOp) (e : Engine) : List (Except EngineFault Answer × Engine) :=
  List.zipWith (fun op x => (op.muted x.1, x.2.silent)) ops (trace ops e)

theorem observed_cons (op : HostOp) (ops : List HostOp) (e : Engine) :
    observed (op :: ops) e = (op.muted (outcome (op.step.run e)), (after (op.step.run e)).silent) ::
      observed ops (after (op.step.run e)) := rfl

/-- A report of the odds gives each of them absent or as a percentage that can be written. -/
def ReportsWritable : HostOp → Prop
  | .reportOdds p t => ∀ q, p = some q ∨ t = some q → q.Writable
  | .call _ => True

theorem reportsWritable_doubles (p t : Option Float) :
    (reportOdds (p.map .real) (t.map .real)).ReportsWritable := by
  rintro q (h | h) <;> obtain ⟨x, -, rfl⟩ := Option.map_eq_some_iff.1 h <;> exact Percent.writable_real x

theorem step_silent (op : HostOp) (hop : op ≠ .call .toggleAudio) {e : Engine}
    (hw : e.calculator.state.OddsWritable) :
    op.step.run e.silent = Engine.mapState Engine.silent (op.step.run e) := by
  cases op with
  | call op => exact op.step_silent (fun h => hop (h ▸ rfl)) hw
  | reportOdds p t => rfl

/-- One call on two engines that differ only in audio feedback, the speaker and what was spoken
gives the same answer, but for the flag a toggle gives, and leaves engines that differ in those
parts only. -/
theorem step_agree (op : HostOp) {e₁ e₂ : Engine} (he : e₁.silent = e₂.silent)
    (hw : e₁.calculator.state.OddsWritable) :
    op.muted (outcome (op.step.run e₁)) = op.muted (outcome (op.step.run e₂)) ∧
      (after (op.step.run e₁)).silent = (after (op.step.run e₂)).silent := by
  by_cases hop : op = .call .toggleAudio
  · subst hop
    exact ⟨rfl, he⟩
  · have hc := congrArg Engine.calculator he
    rw [Engine.silent_calculator, Engine.silent_calculator] at hc
    have hw₂ : e₂.calculator.state.OddsWritable := hc ▸ hw
    have h₁ := op.step_silent hop hw
    have h₂ := op.step_silent hop hw₂
    have ho : outcome (op.step.run e₁) = outcome (op.step.run e₂) := calc
      outcome (op.step.run e₁) = outcome (op.step.run e₁.silent) := by rw [h₁, Engine.outcome_mapState]
      _ = outcome (op.step.run e₂.silent) := by rw [he]
      _ = outcome (op.step.run e₂) := by rw [h₂, Engine.outcome_mapState]
    have ha : (after (op.step.run e₁)).silent = (after (op.step.run e₂)).silent := calc
      (after (op.step.run e₁)).silent = after (op.step.run e₁.silent) := by rw [h₁, Engine.after_mapState]
      _ = after (op.step.run e₂.silent) := by rw [he]
      _ = (after (op.step.run e₂)).silent := by rw [h₂, Engine.after_mapState]
    exact ⟨congrArg op.muted ho, ha⟩

/-- Every call keeps the odds writable, when the odds it reports can be written. -/
theorem oddsWritable_after (op : HostOp) (e : Engine) (hop : op.ReportsWritable)
    (hw : e.calculator.state.OddsWritable) : (after (op.step.run e)).calculator.state.OddsWritable := by
  refine calculator_keeps (fun c => c.state.OddsWritable) op e
    (fun _ _ _ _ hc ha => Calculator.apply_oddsWritable hc ha) ?_
  cases op with
  | call _ => exact hw
  | reportOdds p t => exact hop

/-- Two engines that differ only in audio feedback, the speaker and what was spoken are observed
alike along any run that reports only odds that can be written. -/
theorem observed_agree : ∀ (ops : List HostOp) {e₁ e₂ : Engine}, e₁.silent = e₂.silent →
    e₁.calculator.state.OddsWritable → (∀ op ∈ ops, op.ReportsWritable) →
    observed ops e₁ = observed ops e₂
  | [], _, _, _, _, _ => rfl
  | op :: ops, e₁, e₂, he, hw, hr => by
    obtain ⟨ho, ha⟩ := op.step_agree he hw
    have hw' := op.oddsWritable_after e₁ (hr op List.mem_cons_self) hw
    have ih := observed_agree ops ha hw' fun o ho => hr o (List.mem_cons_of_mem op ho)
    rw [observed_cons, observed_cons, ho, ha, ih]

/-! ## What is spoken -/

/-- What the speaker says along a run, in order. -/
def spokenAlong : List HostOp → Engine → List String
  | [], _ => []
  | op :: ops, e => (op.executed e).flatMap e.readsAloud ++ spokenAlong ops (after (op.step.run e))

theorem spoken_run : ∀ (ops : List HostOp) (e : Engine), (run ops e).spoken = e.spoken ++ spokenAlong ops e
  | [], _ => (List.append_nil _).symm
  | op :: ops, e => by
    rw [run, spoken_run ops, (books op e).2.2, spokenAlong, List.append_assoc]

end HostOp

/-! ## The law -/

/-- Audio feedback and the speaker never change what a run does, as long as the odds the host
reports can be written as doubles, as odds reported as doubles always can: two engines that differ
only in the audio feedback flag, the speaker and what was spoken give the same answer to every
call, but for the flag a toggle of audio feedback gives, and after every call the engines still
differ in those parts only. What the speaker says along a run is, for each executed transcript
that asks for the odds while audio feedback is on, the sentence of the odds after its commands
when the speaker works, the host has the odds control and both odds are reported, and nothing
else. -/
theorem audio_feedback_never_changes_interpretation (e₁ e₂ : Engine) (ops : List HostOp)
    (he : e₁.silent = e₂.silent) (hw : e₁.calculator.state.OddsWritable)
    (hr : ∀ op ∈ ops, op.ReportsWritable) :
    HostOp.observed ops e₁ = HostOp.observed ops e₂ ∧
      (HostOp.run ops e₁).spoken = e₁.spoken ++ HostOp.spokenAlong ops e₁ :=
  ⟨HostOp.observed_agree ops he hw hr, HostOp.spoken_run ops e₁⟩

/-- A page with audio feedback on and a working speaker, and one without either, asked for the
odds after the host reported them. -/
theorem loud_and_silent_pages_agree_on_the_odds :
    ({ Engine.onMicrophone false with audio := true, speaker := some .working } : Engine).silent =
        (Engine.onMicrophone false).silent ∧
      ({ Engine.onMicrophone false with audio := true, speaker := some .working } : Engine).calculator.state.OddsWritable ∧
      (∀ op ∈ [HostOp.reportOdds (some (.real 12.5)) (some (.real 73.2)),
        .call (.simulate ⟨"what's my odds", 1.0, by decide⟩), .call .toggleAudio], op.ReportsWritable) ∧
      HostOp.observed [.reportOdds (some (.real 12.5)) (some (.real 73.2)),
          .call (.simulate ⟨"what's my odds", 1.0, by decide⟩), .call .toggleAudio]
          { Engine.onMicrophone false with audio := true, speaker := some .working } =
        HostOp.observed [.reportOdds (some (.real 12.5)) (some (.real 73.2)),
          .call (.simulate ⟨"what's my odds", 1.0, by decide⟩), .call .toggleAudio] (Engine.onMicrophone false) ∧
      (HostOp.run [.reportOdds (some (.real 12.5)) (some (.real 73.2)),
          .call (.simulate ⟨"what's my odds", 1.0, by decide⟩), .call .toggleAudio]
          { Engine.onMicrophone false with audio := true, speaker := some .working }).spoken =
        ({ Engine.onMicrophone false with audio := true, speaker := some .working } : Engine).spoken ++
          HostOp.spokenAlong [.reportOdds (some (.real 12.5)) (some (.real 73.2)),
            .call (.simulate ⟨"what's my odds", 1.0, by decide⟩), .call .toggleAudio]
            { Engine.onMicrophone false with audio := true, speaker := some .working } := by
  have hw : ({ Engine.onMicrophone false with audio := true, speaker := some .working } : Engine).calculator.state.OddsWritable := by
    rintro p (h | h) <;> cases h
  have hr : ∀ op ∈ [HostOp.reportOdds (some (.real 12.5)) (some (.real 73.2)),
      .call (.simulate ⟨"what's my odds", 1.0, by decide⟩), .call .toggleAudio], op.ReportsWritable := by
    intro op hop
    simp only [List.mem_cons, List.not_mem_nil, or_false] at hop
    rcases hop with rfl | rfl | rfl
    · exact HostOp.reportsWritable_doubles (some 12.5) (some 73.2)
    · trivial
    · trivial
  exact ⟨rfl, hw, hr, audio_feedback_never_changes_interpretation _ _ _ rfl hw hr⟩

end VoiceCalc
