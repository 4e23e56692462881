-- A recognizer that reports the end of the session itself when it is stopped. Two runs that
-- differ only in that flag keep engines that differ only in it and give the same answers, except
-- where ending capture on a microphone that stops when asked fails while interpreting the
-- session: the report runs that interpretation under the handler that lets a fault of stopping
-- go, so the run with the flag gives no result where the other gives the fault.
import Mathlib.Control.Monad.Basic
import VoiceCalc.Proofs.EngineSteps

namespace VoiceCalc

/-! ## The flag -/

namespace Recognizer

/-- The recognizer with its report of the end when stopped set to `b`; a browser makes none. -/
def endingOnStop (b : Bool) : Recognizer → Recognizer
  | .browser l => .browser l
  | .microphone m => .microphone { m with endsOnStop := b }

/-- The recognizer is a microphone that stops when asked. -/
def stopsWhenAsked : Recognizer → Bool
  | .browser _ => false
  | .microphone m => !m.stopRefuses

@[simp] theorem endingOnStop_endingOnStop (b b' : Bool) (r : Recognizer) :
    (r.endingOnStop b).endingOnStop b' = r.endingOnStop b' := by
  cases r <;> rfl

theorem start_endingOnStop (b : Bool) (r : Recognizer) :
    (r.endingOnStop b).start = (r.start).map (·.endingOnStop b) := by
  cases r with
  | browser l => cases l <;> rfl
  | microphone m => cases h : m.startRefusal <;> simp [start, endingOnStop, h] <;> rfl

@[simp] theorem stopsWhenAsked_endingOnStop (b : Bool) (r : Recognizer) :
    (r.endingOnStop b).stopsWhenAsked = r.stopsWhenAsked := by
  cases r <;> rfl

@[simp] theorem stopsWhenAsked_stop (r : Recognizer) : r.stop.1.stopsWhenAsked = r.stopsWhenAsked := by
  cases r <;> rfl

theorem stop_endingOnStop_fst (b : Bool) (r : Recognizer) :
    (r.endingOnStop b).stop.1 = r.stop.1.endingOnStop b := by
  cases r <;> rfl

/-- Stopping reports the end exactly when the flag is set on a microphone that stops when
asked. -/
theorem stop_endingOnStop_snd (b : Bool) (r : Recognizer) :
    (r.endingOnStop b).stop.2 = .reportsEnd ↔ b = true ∧ r.stopsWhenAsked = true := by
  cases r with
  | browser l => simp [endingOnStop, stop, stopsWhenAsked]
  | microphone m => cases b <;> cases h : m.stopRefuses <;> simp [endingOnStop, stop, stopsWhenAsked, h]

end Recognizer

namespace Engine

/-- The engine with its recognizer's flag set to `b`. -/
def endingOnStop (b : Bool) : Engine → Engine := mapOuter (Option.map (Recognizer.endingOnStop b)) id id

@[simp] theorem endingOnStop_endingOnStop (b b' : Bool) (e : Engine) :
    (e.endingOnStop b).endingOnStop b' = e.endingOnStop b' := by
  simp [endingOnStop, mapOuter, Option.map_map, Function.comp_def]

@[simp] theorem endingOnStop_recognizer (b : Bool) (e : Engine) :
    (e.endingOnStop b).recognizer = e.recognizer.map (Recognizer.endingOnStop b) := rfl
@[simp] theorem endingOnStop_session (b : Bool) (e : Engine) : (e.endingOnStop b).session = e.session := rfl
@[simp] theorem endingOnStop_lastResult (b : Bool) (e : Engine) :
    (e.endingOnStop b).lastResult = e.lastResult := rfl
@[simp] theorem endingOnStop_capturing (b : Bool) (e : Engine) :
    (e.endingOnStop b).capturing = e.capturing := rfl

/-! ## Steps that do not look at the flag -/

theorem commutes_beginCapture (b : Bool) : Commutes (endingOnStop b) beginCapture := by
  intro e
  rw [beginCapture_run, beginCapture_run, endingOnStop_recognizer, endingOnStop_capturing]
  rcases e.recognizer with _ | rec
  · rfl
  · simp only [Option.map_some]
    rw [Recognizer.start_endingOnStop]
    by_cases hc : e.capturing = true
    · rw [if_pos hc, if_pos hc]; rfl
    · rw [if_neg hc, if_neg hc]
      rcases rec.start with msg | rec' <;> rfl

theorem commutes_close (b : Bool) : Commutes (endingOnStop b) close := by
  intro e
  rw [close_run, close_run, endingOnStop_capturing]
  by_cases hc : e.capturing = true
  · rw [if_pos hc, if_pos hc]
    have hs : after (stopRecognizer.run { e.endingOnStop b with session := none }) =
        endingOnStop b (after (stopRecognizer.run { e with session := none })) := by
      rw [stopRecognizer_idle (show ({ e.endingOnStop b with session := none } : Engine).capturing =
          false from rfl),
        stopRecognizer_idle (show ({ e with session := none } : Engine).capturing = false from rfl)]
      cases hr : e.recognizer <;> simp [endingOnStop, mapOuter, hr, Recognizer.stop_endingOnStop_fst]
    rw [hs]
    exact framed_setStatus _ _ _ _ _ _
  · rw [if_neg hc, if_neg hc]
    rfl

/-! ## The last result while a session is open -/

/-- While a session is open the last result is empty: it is cleared when the session opens, and
set only after the session has closed. -/
def Awaiting (e : Engine) : Prop := e.capturing = true → e.lastResult = none

theorem awaiting_of_idle {e : Engine} (h : e.capturing = false) : Awaiting e := by
  intro hc; rw [h] at hc; exact absurd hc Bool.false_ne_true

theorem Awaiting.of_eq {e e' : Engine} (h : Awaiting e) (hc : e'.capturing = e.capturing)
    (hl : e'.lastResult = e.lastResult) : Awaiting e' := by
  intro hc'; rw [hl]; exact h (hc ▸ hc')

theorem awaiting_endingOnStop {e : Engine} (b : Bool) : Awaiting (e.endingOnStop b) ↔ Awaiting e :=
  Iff.rfl

/-! ## Ending capture -/

def stopped (e : Engine) : Engine := { e with recognizer := e.recognizer.map (·.stop.1) }

/-- Stopping the recognizer of a flagged engine: with the flag set on a microphone that stops
when asked, the recognizer reports the end, which runs on the stopped engine. -/
theorem stopRecognizer_endingOnStop (e : Engine) (b : Bool) :
    after (stopRecognizer.run (e.endingOnStop b)) =
      if b = true ∧ e.recognizer.any Recognizer.stopsWhenAsked = true
      then after (onEnd.run ((stopped e).endingOnStop true))
      else (stopped e).endingOnStop b := by
  rw [stopRecognizer_run, endingOnStop_recognizer]
  rcases hr : e.recognizer with _ | rec
  · simp [stopped, endingOnStop, mapOuter, hr]
  · have hx : ({ e.endingOnStop b with recognizer := some (rec.endingOnStop b).stop.1 } : Engine) =
        (stopped e).endingOnStop b := by
      simp [stopped, endingOnStop, mapOuter, hr, Recognizer.stop_endingOnStop_fst]
    simp only [Option.map_some, after_ok, hx, Option.any_some]
    by_cases hs : b = true ∧ rec.stopsWhenAsked = true
    · rw [if_pos ((Recognizer.stop_endingOnStop_snd b rec).mpr hs), if_pos hs, hs.1]
    · rw [if_neg (mt (Recognizer.stop_endingOnStop_snd b rec).mp hs), if_neg hs]

theorem stopped_any_stopsWhenAsked (e : Engine) :
    (stopped e).recognizer.any Recognizer.stopsWhenAsked = e.recognizer.any Recognizer.stopsWhenAsked := by
  cases h : e.recognizer <;> simp [stopped, h]

theorem any_stopsWhenAsked_endingOnStop (b : Bool) (e : Engine) :
    (e.endingOnStop b).recognizer.any Recognizer.stopsWhenAsked =
      e.recognizer.any Recognizer.stopsWhenAsked := by
  cases h : e.recognizer <;> simp [h]

@[simp] theorem stopped_lastResult (e : Engine) : (stopped e).lastResult = e.lastResult := rfl

end Engine

/-- The answer of a call made with the flag set, from the answer `a` the call gave without it
and the engine `e` it left: a fault of ending capture, on a microphone that stops when asked,
becomes no result; every other answer stays. -/
def Op.answerEndingOnStop : Op → Engine → Except EngineFault Answer → Except EngineFault Answer
  | .finish, e, .error x =>
    if e.recognizer.any Recognizer.stopsWhenAsked then .ok (.result none) else .error x
  | _, _, a => a

namespace Engine

/-- Ending capture on a flagged engine with a session open interprets the session of the stopped
engine. When the recognizer reports the end, that runs under the handler of stopping, and the
answer is the last result the interpretation left. -/
theorem endCapture_endingOnStop {e : Engine} (hc : e.capturing = true) (b : Bool) :
    endCapture.run (e.endingOnStop b) =
      if b = true ∧ e.recognizer.any Recognizer.stopsWhenAsked = true then
        .ok (after (finishSession.run (stopped e))).lastResult
          ((after (finishSession.run (stopped e))).endingOnStop true)
      else mapState (endingOnStop b) (finishSession.run (stopped e)) := by
  have hcap : ∀ b, ((stopped e).endingOnStop b).capturing = true := fun _ => hc
  have hcf : ∀ b, finishSession.run ((stopped e).endingOnStop b) =
      mapState (endingOnStop b) (finishSession.run (stopped e)) := fun _ => commutes_finishSession _ _
  rw [endCapture_run, endingOnStop_capturing, if_pos hc, stopRecognizer_endingOnStop]
  by_cases hs : b = true ∧ e.recognizer.any Recognizer.stopsWhenAsked = true
  · rw [if_pos hs, if_pos hs, onEnd_after (hcap true), hcf, after_mapState]
    rw [endingOnStop_capturing, finishSession_idle, if_neg Bool.false_ne_true]
    rfl
  · rw [if_neg hs, if_neg hs, if_pos (hcap b), hcf]

/-- Ending capture with the flag set and without it: the engines after differ only in the flag,
and the answers are the same but for a fault of interpreting the session on a microphone that
stops when asked, which the recognizer's report of the end lets go. -/
theorem finish_endingOnStop (e : Engine) (h : Awaiting e) :
    after (Op.finish.step.run (e.endingOnStop true)) =
        (after (Op.finish.step.run (e.endingOnStop false))).endingOnStop true ∧
      outcome (Op.finish.step.run (e.endingOnStop true)) =
        Op.finish.answerEndingOnStop (after (Op.finish.step.run (e.endingOnStop false)))
          (outcome (Op.finish.step.run (e.endingOnStop false))) ∧
      (after (Op.finish.step.run (e.endingOnStop false))).endingOnStop false =
        after (Op.finish.step.run (e.endingOnStop false)) := by
  simp only [Op.step, after_run_map, outcome_run_map]
  by_cases hc : e.capturing = true
  · rw [endCapture_endingOnStop hc, endCapture_endingOnStop hc]
    simp only [Bool.false_eq_true, false_and, if_false, true_and]
    have hlast := finishSession_lastResult (stopped e)
    have hrec := finishSession_recognizer (stopped e)
    rcases hR : finishSession.run (stopped e) with ⟨v, s⟩ | ⟨x, s⟩
    · have hv : s.lastResult = v := by
        rw [hR] at hlast; simpa only [stopped_lastResult, h hc, Option.or_none] using hlast
      simp only [after_ok, hv, mapState, ite_self]
      exact ⟨by simp, rfl, by simp⟩
    · have hn : s.lastResult = none := by
        rw [hR] at hlast; simpa only [stopped_lastResult, h hc] using hlast
      have hs : (s.endingOnStop false).recognizer.any Recognizer.stopsWhenAsked =
          e.recognizer.any Recognizer.stopsWhenAsked := by
        rw [hR, after_error] at hrec
        rw [any_stopsWhenAsked_endingOnStop, hrec, stopped_any_stopsWhenAsked]
      simp only [after_error, hn, mapState]
      refine ⟨by split <;> simp, ?_, by simp⟩
      show _ = if ((s.endingOnStop false).recognizer.any Recognizer.stopsWhenAsked) then _ else _
      rw [hs]
      split <;> rfl
  · rw [endCapture_run, endCapture_run, endingOnStop_capturing, endingOnStop_capturing, if_neg hc,
      if_neg hc]
    exact ⟨by simp, rfl, by simp⟩

end Engine

/-! ## Runs with and without the flag -/

theorem Op.commutes_endingOnStop (op : Op) (hop : op ≠ .finish) (b : Bool) :
    Engine.Commutes (Engine.endingOnStop b) op.step := by
  cases op with
  | begin => exact Engine.Commutes.map _ (Engine.commutes_beginCapture b)
  | finish => exact absurd rfl hop
  | heard r => exact Engine.Commutes.map _ (Engine.commutes_onResult _ _ r)
  | ended => exact Engine.Commutes.map _ (Engine.commutes_onEnd _)
  | close => exact Engine.Commutes.map _ (Engine.commutes_close b)
  | readStatus => exact Engine.Commutes.map _ (Engine.commutes_readStatus (fun r => by cases r <;> rfl) _ _)
  | failed _ | process _ | simulate _ | advance _ | toggleAudio => exact Op.framed_step _ rfl _ _ _

theorem Engine.Framed.awaiting {α : Type} {s : Step α} (hs : Framed s) {e : Engine}
    (h : Awaiting e) : Awaiting (after (s.run e)) :=
  h.of_eq (by simp [capturing, hs.session_after]) (hs.lastResult_after e)

theorem Op.awaiting_after (op : Op) {e : Engine} (h : Engine.Awaiting e) :
    Engine.Awaiting (after (op.step.run e)) := by
  cases op with
  | begin =>
    simp only [Op.step, after_run_map, Engine.beginCapture_run]
    rcases e.recognizer with _ | rec
    · exact h
    · dsimp only
      split
      · exact h
      · rcases rec.start with msg | rec'
        · exact Engine.awaiting_of_idle rfl
        · intro _; rfl
  | finish => exact Engine.awaiting_of_idle (by simpa only [Op.step, after_run_map] using Engine.endCapture_idle e)
  | ended => exact Engine.awaiting_of_idle (by simpa only [Op.step, after_run_map] using Engine.onEnd_closes e)
  | close => exact Engine.awaiting_of_idle (by simpa only [Op.step, after_run_map] using Engine.close_idle e)
  | heard r =>
    refine h.of_eq ?_ rfl
    show (e.session.map (·.add r)).isSome = e.session.isSome
    cases e.session <;> rfl
  | readStatus => exact h
  | failed _ | process _ | simulate _ | advance _ | toggleAudio => exact (Op.framed_step _ rfl).awaiting h

/-- One call with the flag set and without it: the engines after differ only in the flag, the
engine after the call without it has the flag unset, and the answers are related by
`Op.answerEndingOnStop`. -/
theorem Op.step_endingOnStop (op : Op) {e : Engine} (h : Engine.Awaiting e) :
    after (op.step.run (e.endingOnStop true)) =
        (after (op.step.run (e.endingOnStop false))).endingOnStop true ∧
      outcome (op.step.run (e.endingOnStop true)) =
        op.answerEndingOnStop (after (op.step.run (e.endingOnStop false)))
          (outcome (op.step.run (e.endingOnStop false))) ∧
      (after (op.step.run (e.endingOnStop false))).endingOnStop false =
        after (op.step.run (e.endingOnStop false)) := by
  by_cases hop : op = .finish
  · subst hop
    exact Engine.finish_endingOnStop e h
  · rw [op.commutes_endingOnStop hop true e, op.commutes_endingOnStop hop false e]
    refine ⟨by simp, ?_, by simp⟩
    rw [Engine.outcome_mapState, Engine.outcome_mapState]
    cases op <;> first | exact absurd rfl hop | rfl

/-- A whole run with the flag set is the run without it, with the flag set on every engine and
the answers related call by call by `Op.answerEndingOnStop`. -/
theorem trace_endingOnStop (ops : List Op) {e : Engine} (h : Engine.Awaiting e) :
    Op.trace ops (e.endingOnStop true) =
      (ops.zip (Op.trace ops (e.endingOnStop false))).map fun p =>
        (p.1.answerEndingOnStop p.2.2 p.2.1, p.2.2.endingOnStop true) := by
  induction ops generalizing e with
  | nil => rfl
  | cons op ops ih =>
    obtain ⟨h1, h2, h3⟩ := op.step_endingOnStop h
    have ha := op.awaiting_after ((Engine.awaiting_endingOnStop false).mpr h)
    have ih' := ih ((Engine.awaiting_endingOnStop false).mp (h3 ▸ ha))
    rw [h3] at ih'
    simp only [Op.trace, List.zip_cons_cons, List.map_cons, h1, h2, ih']

/-- Reporting the end from inside stopping makes one difference: from an engine with no session
open, the run with the flag set keeps the engines of the run without it, the flag apart, and
gives its answers, except that ending capture on a microphone that stops when asked gives no
result where interpreting the session failed. -/
theorem ending_on_stop_lets_processing_faults_go (e : Engine) (ops : List Op)
    (h : e.session = none) :
    Op.trace ops (e.endingOnStop true) =
      (ops.zip (Op.trace ops (e.endingOnStop false))).map fun p =>
        (p.1.answerEndingOnStop p.2.2 p.2.1, p.2.2.endingOnStop true) :=
  trace_endingOnStop ops (Engine.awaiting_of_idle (by simp [Engine.capturing, h]))

theorem ending_on_stop_after_a_heard_level :
    (Engine.onMicrophone false).session = none ∧
      Op.trace [.begin, .heard ⟨"level 4", true, some 0.9, by decide⟩, .finish]
          ((Engine.onMicrophone false).endingOnStop true) =
        (([.begin, .heard ⟨"level 4", true, some 0.9, by decide⟩, .finish] : List Op).zip
            (Op.trace [.begin, .heard ⟨"level 4", true, some 0.9, by decide⟩, .finish]
              ((Engine.onMicrophone false).endingOnStop false))).map fun p =>
          (p.1.answerEndingOnStop p.2.2 p.2.1, p.2.2.endingOnStop true) :=
  ⟨rfl, ending_on_stop_lets_processing_faults_go _ _ rfl⟩

set_option maxRecDepth 20000 in
/-- A sentence spelled with a long s is no numeral word, so interpreting it fails: ending capture
gives that fault on a microphone that leaves the end to the engine, and no result on one that
reports the end itself. -/
theorem ending_on_stop_hides_an_unknown_numeral :
    (Op.trace [.begin, .heard ⟨"ſix", true, some 0.9, by decide⟩, .finish] (Engine.onMicrophone false)).map
        Prod.fst = [.ok (.flag true), .ok .done, .error (.read (.unknownNumeral ⟨"ſix"⟩))] ∧
      (Op.trace [.begin, .heard ⟨"ſix", true, some 0.9, by decide⟩, .finish] (Engine.onMicrophone true)).map
        Prod.fst = [.ok (.flag true), .ok .done, .ok (.result none)] := by
  decide +kernel

end VoiceCalc
