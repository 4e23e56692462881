-- The calls a host makes: those on the engine, and reports of the odds it computed. What a run of
-- them leaves in the calculator and the history is said by the transcripts it executes: each
-- executed transcript dispatches its commands once and enters the history once, no other call
-- touches the history, and only a report of the odds touches the calculator otherwise.
import VoiceCalc.Proofs.Interpreting
import VoiceCalc.Proofs.CaptureHandoff
import VoiceCalc.Proofs.HistoryBuffer

namespace VoiceCalc

/-! ## Calls of the host -/

/-- A call the host makes: one on the engine, or a report of the odds it computed, recorded as
given. -/
inductive HostOp
  | call (op : Op)
  | reportOdds (perRefresh total : Option Percent)

namespace HostOp

def step : HostOp → Step Answer
  | .call op => op.step
  | .reportOdds p t =>
    (fun _ => .done) <$> modify fun e => { e with calculator := e.calculator.reportOdds p t }

/-- Makes the calls one after another, each from the engine the one before left, and gives for
each call its answer or fault and the engine after it. -/
def trace : List HostOp → Engine → List (Except EngineFault Answer × Engine)
  | [], _ => []
  | op :: ops, e => (outcome (op.step.run e), after (op.step.run e)) :: trace ops (after (op.step.run e))

def run : List HostOp → Engine → Engine
  | [], e => e
  | op :: ops, e => run ops (after (op.step.run e))

/-- Each call of the run satisfies `Q` at the engine it is made on. -/
def Along (Q : HostOp → Engine → Prop) : List HostOp → Engine → Prop
  | [], _ => True
  | op :: ops, e => Q op e ∧ Along Q ops (after (op.step.run e))

/-- What each call keeps, given what it needs, holds of every engine of a run. -/
theorem trace_keeps (P : Engine → Prop) {Q : HostOp → Engine → Prop}
    (hstep : ∀ op e, Q op e → P e → P (after (op.step.run e))) :
    ∀ {ops : List HostOp} {e : Engine}, Along Q ops e → P e → ∀ x ∈ trace ops e, P x.2
  | [], _, _, _, x, hx => by cases hx
  | op :: ops, e, ⟨hq, hrest⟩, he, x, hx => by
    have he' := hstep op e hq he
    rcases List.mem_cons.mp hx with rfl | hx
    · exact he'
    · exact trace_keeps P hstep hrest he' x hx

theorem along_of_forall {Q : HostOp → Prop} :
    ∀ {ops : List HostOp} {e : Engine}, (∀ op ∈ ops, Q op) → Along (fun op _ => Q op) ops e
  | [], _, _ => trivial
  | op :: _, _, h =>
    ⟨h op List.mem_cons_self, along_of_forall fun o ho => h o (List.mem_cons_of_mem op ho)⟩

end HostOp

/-! ## Executed transcripts -/

/-- The interpretation of a transcript at the gate, when it is executed. -/
def Gate.executed (g : Gate) (t : Transcript) : Option Interpretation :=
  match g.interpret t with
  | .ok r => if r.outcome = .executed then some r else none
  | .error _ => none

theorem Gate.executed_ok {g : Gate} {t : Transcript} {r : Interpretation} (h : g.executed t = some r) :
    g.interpret t = .ok r ∧ r.outcome = .executed := by
  unfold Gate.executed at h
  split at h
  · rename_i r' hr
    split at h
    · cases h
      exact ⟨hr, by assumption⟩
    · cases h
  · cases h

namespace HostOp

/-- The transcripts a call hands to interpretation: the one to process or simulate, or the open
session's when capture ends, by the page or by the recognizer. -/
def interprets : HostOp → Engine → List Transcript
  | .call (.process t), _ => [t]
  | .call (.simulate t), _ => [t]
  | .call op, e => op.handed e
  | .reportOdds _ _, _ => []

def executed (op : HostOp) (e : Engine) : List Interpretation := (op.interprets e).filterMap e.gate.executed

/-- The interpretations a run executes, oldest first. -/
def executedAlong : List HostOp → Engine → List Interpretation
  | [], _ => []
  | op :: ops, e => op.executed e ++ executedAlong ops (after (op.step.run e))

/-- The calculator as the host's report of the odds leaves it. -/
def reports : HostOp → Calculator → Calculator
  | .reportOdds p t, c => c.reportOdds p t
  | .call _, c => c

end HostOp

/-- The calculator after the commands of the interpretations, in order. -/
def Calculator.applyAll (c : Calculator) (rs : List Interpretation) : Calculator :=
  rs.foldl (fun c r => (c.dispatch r.commands).1) c

/-- The history after the interpretations are entered, in order. -/
def History.enterAll (h : History Entry) (rs : List Interpretation) : History Entry :=
  rs.foldl (fun h r => h.push (Entry.of r)) h

@[simp] theorem Calculator.applyAll_nil (c : Calculator) : c.applyAll [] = c := rfl
@[simp] theorem History.enterAll_nil (h : History Entry) : h.enterAll [] = h := rfl

theorem History.enterAll_append (h : History Entry) (rs rs' : List Interpretation) :
    h.enterAll (rs ++ rs') = (h.enterAll rs).enterAll rs' := List.foldl_append

/-! ## What one call leaves in the calculator, the history and the spoken texts -/

namespace Engine

/-- Interpreting a transcript changes the calculator, the history and the spoken texts exactly when
it executes the transcript: the commands are dispatched, the entry is made and the odds are read
aloud if asked for. -/
theorem process_books (t : Transcript) (e : Engine) :
    (after ((process t).run e)).calculator = e.calculator.applyAll (e.gate.executed t).toList ∧
      (after ((process t).run e)).history = e.history.enterAll (e.gate.executed t).toList ∧
      (after ((process t).run e)).spoken = e.spoken ++ (e.gate.executed t).toList.flatMap e.readsAloud := by
  unfold Gate.executed
  cases h : e.gate.interpret t with
  | error x =>
    rw [process_run_unread h]
    exact ⟨rfl, rfl, (List.append_nil _).symm⟩
  | ok r =>
    by_cases hx : r.outcome = .executed
    · rw [process_after_executed h hx]
      simp only [hx, if_true, Option.toList_some, List.flatMap_cons, List.flatMap_nil, List.append_nil,
        and_true]
      exact ⟨rfl, rfl⟩
    · rw [process_run_quiet h hx]
      simp only [hx, if_false, Option.toList_none, List.flatMap_nil, List.append_nil]
      exact ⟨rfl, rfl, rfl⟩

/-- Closing a session changes the calculator, the history and the spoken texts by the transcript it
hands over, if that is executed. -/
theorem finishSession_books (e : Engine) :
    (after (finishSession.run e)).calculator =
        e.calculator.applyAll (e.pending.filterMap e.gate.executed) ∧
      (after (finishSession.run e)).history = e.history.enterAll (e.pending.filterMap e.gate.executed) ∧
      (after (finishSession.run e)).spoken =
        e.spoken ++ (e.pending.filterMap e.gate.executed).flatMap e.readsAloud := by
  rw [finishSession_run]
  unfold pending
  rcases e.session.bind Session.transcript with _ | t
  · dsimp only
    split <;> exact ⟨rfl, rfl, (List.append_nil _).symm⟩
  · have hp := process_books t { e with session := none }
    dsimp only
    simp only [Option.toList_some, List.filterMap_cons, List.filterMap_nil]
    cases h : (process t).run { e with session := none } with
    | ok r e' => rw [h, after_ok] at hp; exact hp
    | error x e' => rw [h, after_error] at hp; exact hp

end Engine

/-- What one call on the engine leaves in the calculator, the history and the spoken texts: the
commands of the interpretations it executes, dispatched in order, their entries, and what the
speaker says for them. -/
theorem Op.books_spoken (op : Op) (e : Engine) :
    (after (op.step.run e)).calculator = e.calculator.applyAll ((HostOp.call op).executed e) ∧
      (after (op.step.run e)).history = e.history.enterAll ((HostOp.call op).executed e) ∧
      (after (op.step.run e)).spoken = e.spoken ++ ((HostOp.call op).executed e).flatMap e.readsAloud := by
  cases op with
  | begin =>
    simp only [Op.step, after_run_map, Engine.beginCapture_run]
    rcases e.recognizer with _ | rec
    · exact ⟨rfl, rfl, (List.append_nil _).symm⟩
    · dsimp only
      split
      · exact ⟨rfl, rfl, (List.append_nil _).symm⟩
      · rcases rec.start with msg | rec' <;> exact ⟨rfl, rfl, (List.append_nil _).symm⟩
  | finish =>
    simp only [Op.step, after_run_map]
    by_cases hc : e.capturing = true
    · rw [Engine.endCapture_after hc]
      exact Engine.finishSession_books (Engine.stopped e)
    · rw [Engine.endCapture_run, if_neg hc]
      simp only [HostOp.executed, HostOp.interprets, Op.handed,
        Engine.pending_of_idle (Bool.eq_false_iff.mpr hc)]
      exact ⟨rfl, rfl, (List.append_nil _).symm⟩
  | ended =>
    simp only [Op.step, after_run_map]
    by_cases hc : e.capturing = true
    · rw [Engine.onEnd_after hc]
      exact Engine.finishSession_books e
    · rw [Engine.onEnd_run, if_neg hc]
      simp only [HostOp.executed, HostOp.interprets, Op.handed,
        Engine.pending_of_idle (Bool.eq_false_iff.mpr hc)]
      exact ⟨rfl, rfl, (List.append_nil _).symm⟩
  | close =>
    simp only [Op.step, after_run_map, Engine.close_run]
    split
    · rw [Engine.stopRecognizer_idle rfl]
      exact ⟨rfl, rfl, (List.append_nil _).symm⟩
    · exact ⟨rfl, rfl, (List.append_nil _).symm⟩
  | process t =>
    simp only [Op.step, after_run_map]
    exact Engine.process_books t e
  | simulate t =>
    simp only [Op.step, after_run_map, Engine.simulate_eq]
    exact Engine.process_books t e
  | heard r => exact ⟨rfl, rfl, (List.append_nil _).symm⟩
  | failed code => exact ⟨rfl, rfl, (List.append_nil _).symm⟩
  | advance seconds => exact ⟨rfl, rfl, (List.append_nil _).symm⟩
  | readStatus => exact ⟨rfl, rfl, (List.append_nil _).symm⟩
  | toggleAudio => exact ⟨rfl, rfl, (List.append_nil _).symm⟩

theorem Op.books (op : Op) (e : Engine) :
    (after (op.step.run e)).calculator = e.calculator.applyAll ((HostOp.call op).executed e) ∧
      (after (op.step.run e)).history = e.history.enterAll ((HostOp.call op).executed e) :=
  ⟨(Op.books_spoken op e).1, (Op.books_spoken op e).2.1⟩

namespace HostOp

/-- What one call leaves in the calculator, the history and the spoken texts: a report of the odds,
then what the interpretations it executes write. -/
theorem books (op : HostOp) (e : Engine) :
    (after (op.step.run e)).calculator = (op.reports e.calculator).applyAll (op.executed e) ∧
      (after (op.step.run e)).history = e.history.enterAll (op.executed e) ∧
      (after (op.step.run e)).spoken = e.spoken ++ (op.executed e).flatMap e.readsAloud := by
  cases op with
  | call op => exact Op.books_spoken op e
  | reportOdds p t => exact ⟨rfl, rfl, (List.append_nil _).symm⟩

theorem executed_at_gate {op : HostOp} {e : Engine} {r : Interpretation} (h : r ∈ op.executed e) :
    ∃ t, e.gate.interpret t = .ok r ∧ r.outcome = .executed := by
  obtain ⟨t, -, ht⟩ := List.mem_filterMap.mp h
  exact ⟨t, Gate.executed_ok ht⟩

/-- The history after a run holds the entries of the interpretations the run executed. -/
theorem history_run : ∀ (ops : List HostOp) (e : Engine),
    (run ops e).history = e.history.enterAll (executedAlong ops e)
  | [], _ => rfl
  | op :: ops, e => by
    rw [run, executedAlong, History.enterAll_append, ← (books op e).2.1, history_run ops]

end HostOp

/-! ## The history -/

/-- Entering interpretations puts their entries in front, newest first, and keeps as many entries
as the capacity allows. -/
theorem History.entries_enterAll (h : History Entry) (rs : List Interpretation) :
    (h.enterAll rs).entries = (rs.reverse.map Entry.of ++ h.entries).take h.capacity := by
  have he : h.enterAll rs = h.performAll ((rs.map Entry.of).map .push) := by
    simp only [enterAll, performAll, List.map_map, List.foldl_map]
    rfl
  rw [he, History.entries_pushAll, List.map_reverse]

/-! ## The bounds of the calculator -/

namespace HostOp

/-- A report of the odds gives each of them absent or as a percentage from 0 to 100. -/
def ReportsPercentages : HostOp → Prop
  | .reportOdds p t => (∀ q, p = some q → q.InRange) ∧ (∀ q, t = some q → q.InRange)
  | .call _ => True

end HostOp

/-- What every command in range keeps, applying executed interpretations keeps. -/
theorem Calculator.applyAll_keeps (P : Calculator → Prop) {c : Calculator} {rs : List Interpretation}
    (hP : ∀ cmd c c', cmd.InRange → P c → c.apply cmd = .ok c' → P c')
    (hr : ∀ r ∈ rs, ∀ cmd ∈ r.commands, cmd.InRange) (h : P c) : P (c.applyAll rs) := by
  induction rs generalizing c with
  | nil => exact h
  | cons r rs ih =>
    have hd := Calculator.dispatch_keeps P (fun cmd hm c c' => hP cmd c c' (hr r List.mem_cons_self cmd hm)) h
    exact ih (fun r' hr' => hr r' (List.mem_cons_of_mem r hr')) hd

/-- What every command in range and the host's report of the odds keep, every call keeps in the
calculator: the commands it executes were read from sentences, so they are in range. -/
theorem HostOp.calculator_keeps (P : Calculator → Prop) (op : HostOp) (e : Engine)
    (hP : ∀ cmd c c', cmd.InRange → P c → c.apply cmd = .ok c' → P c')
    (hrep : P (op.reports e.calculator)) : P (after (op.step.run e)).calculator := by
  rw [(books op e).1]
  refine Calculator.applyAll_keeps P hP (fun r hr => ?_) hrep
  obtain ⟨t, ht, -⟩ := executed_at_gate hr
  exact (Gate.interpret_ok ht).2

/-- Every call keeps the calculator within its bounds, when the odds it reports are percentages. -/
theorem HostOp.valid_after (op : HostOp) (e : Engine) (hop : op.ReportsPercentages)
    (hv : e.calculator.state.Valid) : (after (op.step.run e)).calculator.state.Valid := by
  refine calculator_keeps (fun c => c.state.Valid) op e
    (fun _ _ _ hr hc ha => Calculator.apply_valid hc hr ha) ?_
  cases op with
  | call _ => exact hv
  | reportOdds p t => exact { hv with perRefreshOdds := hop.1, totalOdds := hop.2 }

/-! ## The laws -/

/-- The history after any run holds the entries of the newest transcripts the run executed, newest
first, after the entries it held before, as many as the capacity allows:
for each, its text, its confidence and every command read from it. A call that executes no
transcript (one below the threshold, or one with no command) changes neither the history nor the
calculator. -/
theorem history_keeps_newest_executed (e : Engine) (ops : List HostOp) :
    (HostOp.run ops e).entries =
        ((HostOp.executedAlong ops e).reverse.map Entry.of ++ e.entries).take e.history.capacity ∧
      ∀ (op : Op) (e' : Engine), (HostOp.call op).executed e' = [] →
        (after (op.step.run e')).history = e'.history ∧
          (after (op.step.run e')).calculator = e'.calculator := by
  refine ⟨?_, fun op e' hx => ?_⟩
  · unfold Engine.entries
    rw [HostOp.history_run]
    exact History.entries_enterAll e.history _
  · obtain ⟨hc, hh⟩ := Op.books op e'
    rw [hx] at hc hh
    exact ⟨hh, hc⟩

theorem history_after_a_simulated_level :
    (HostOp.run [.call (.simulate ⟨"level 4", 1.0, by decide⟩)] (Engine.onMicrophone false)).entries =
        ((HostOp.executedAlong [.call (.simulate ⟨"level 4", 1.0, by decide⟩)] (Engine.onMicrophone false)).reverse.map
          Entry.of ++ (Engine.onMicrophone false).entries).take (Engine.onMicrophone false).history.capacity ∧
      ∀ (op : Op) (e' : Engine), (HostOp.call op).executed e' = [] →
        (after (op.step.run e')).history = e'.history ∧
          (after (op.step.run e')).calculator = e'.calculator :=
  history_keeps_newest_executed _ _

/-- From a calculator within its bounds, every engine of a run keeps the calculator within them,
when the odds the host reports are percentages: the level from 1 to 9, no count below zero, at
least one refresh, and each of the odds absent or a percentage. -/
theorem calculator_keeps_declared_bounds (e : Engine) (ops : List HostOp)
    (hv : e.calculator.state.Valid) (hr : ∀ op ∈ ops, op.ReportsPercentages) :
    ∀ x ∈ HostOp.trace ops e, x.2.calculator.state.Valid :=
  HostOp.trace_keeps (fun e => e.calculator.state.Valid) (fun op e hop hv => HostOp.valid_after op e hop hv)
    (HostOp.along_of_forall hr) hv

theorem bounds_kept_after_reported_odds :
    (Engine.onMicrophone false).calculator.state.Valid ∧
      (∀ op ∈ [HostOp.reportOdds (some (.real 12.5)) (some (.real 73.2)),
        .call (.simulate ⟨"level up", 1.0, by decide⟩)], op.ReportsPercentages) ∧
      ∀ x ∈ HostOp.trace [.reportOdds (some (.real 12.5)) (some (.real 73.2)),
        .call (.simulate ⟨"level up", 1.0, by decide⟩)] (Engine.onMicrophone false), x.2.calculator.state.Valid := by
  have hr : ∀ op ∈ [HostOp.reportOdds (some (.real 12.5)) (some (.real 73.2)),
      .call (.simulate ⟨"level up", 1.0, by decide⟩)], op.ReportsPercentages := by
    intro op hop
    simp only [List.mem_cons, List.not_mem_nil, or_false] at hop
    rcases hop with rfl | rfl
    · exact ⟨fun q hq => by cases hq; exact ⟨by decide, by decide⟩,
        fun q hq => by cases hq; exact ⟨by decide, by decide⟩⟩
    · trivial
  exact ⟨CalcState.valid_fresh, hr, calculator_keeps_declared_bounds _ _ CalcState.valid_fresh hr⟩

end VoiceCalc
