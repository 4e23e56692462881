-- What capture hands to interpretation. A run of calls is replayed with a note of each
-- transcript that closing a session hands over, and the notes are exactly what a small capture
-- machine hands over: one transcript for each session that is finished or ended, never for one
-- that is abandoned or refused, made of the final results heard while it was open.
import VoiceCalc.Proofs.EngineSteps

namespace VoiceCalc

open Text

variable {α β : Type}

/-! ## The transcript of the results of a session -/

/-- The transcript that a session which heard `rs` should hand over: the texts of its final
results that are not blank, trimmed and joined by single spaces, with the least of their
confidences, a missing one counted as zero; nothing when there is no such result. -/
def handoff (rs : List SpeechResult) : Option Transcript :=
  match rs.filter fun r => r.final && !(trim r.text).isEmpty with
  | [] => none
  | r :: rest =>
    some ⟨" ".intercalate ((r :: rest).map fun x => trim x.text),
      Session.least (Session.partConfidence r) (rest.map Session.partConfidence), Session.least_bounds r rest⟩

theorem Session.finals_add (s : Session) (r : SpeechResult) :
    (s.add r).finals = s.finals ++ (if r.final then [r] else []) := by
  unfold Session.add
  cases r.final <;> simp

/-- A session whose final results are those of `rs` has the transcript that `rs` should hand
over. -/
theorem Session.transcript_eq_handoff {s : Session} {rs : List SpeechResult}
    (h : s.finals = rs.filter (·.final)) : s.transcript = handoff rs := by
  have hf : s.finals.filter (fun r => !(trim r.text).isEmpty) =
      rs.filter fun r => r.final && !(trim r.text).isEmpty := by
    rw [h, List.filter_filter]
    simp only [Bool.and_comm]
  unfold Session.transcript handoff
  cases hl : rs.filter fun r => r.final && !(trim r.text).isEmpty <;> simp only [hf, hl]

/-- The transcript the open session would hand over, as a list of at most one. -/
def Engine.pending (e : Engine) : List Transcript := (e.session.bind Session.transcript).toList

theorem Engine.pending_of_idle {e : Engine} (h : e.capturing = false) : e.pending = [] := by
  simp [pending, Engine.session_eq_none h]

/-! ## The capture machine -/

/-- The results heard by the open session, oldest first, or none when no session is open. -/
abbrev Capture := Option (List SpeechResult)

/-- What one call does to capture, given what the call answered: the session after it and the
transcripts it hands to interpretation. A session opens at a begin that answers true and hears
every result while it is open; finishing or ending it hands its transcript over, and closing
abandons it. -/
def Capture.step : Capture → Op → Except EngineFault Answer → Capture × List Transcript
  | none, .begin, .ok (.flag true) => (some [], [])
  | some rs, .heard r, _ => (some (rs ++ [r]), [])
  | some rs, .finish, _ => (none, (handoff rs).toList)
  | some rs, .ended, _ => (none, (handoff rs).toList)
  | some _, .close, _ => (none, [])
  | c, _, _ => (c, [])

/-- The transcripts each call hands over, along calls with their answers. -/
def Capture.run : Capture → List (Op × Except EngineFault Answer) → List (List Transcript)
  | _, [] => []
  | c, (op, a) :: rest => (c.step op a).2 :: run (c.step op a).1 rest

/-! ## Noting what capture hands over -/

/-- A step that also notes, oldest first, the transcripts that capture hands to interpretation. -/
abbrev Logged := EStateM EngineFault (Engine × List Transcript)

/-- A result of the engine with the notes beside it. -/
def withLog (log : List Transcript) :
    EStateM.Result EngineFault Engine α → EStateM.Result EngineFault (Engine × List Transcript) α
  | .ok a e => .ok a (e, log)
  | .error x e => .error x (e, log)

@[simp] theorem outcome_withLog (log : List Transcript) (r : EStateM.Result EngineFault Engine α) :
    outcome (withLog log r) = outcome r := by
  cases r <;> rfl

@[simp] theorem after_withLog (log : List Transcript) (r : EStateM.Result EngineFault Engine α) :
    after (withLog log r) = (after r, log) := by
  cases r <;> rfl

/-- An engine step that hands nothing over. -/
def Step.noting (s : Step α) : Logged α := fun p => withLog p.2 (s.run p.1)

namespace Noted

/-- Closing the session, noting the transcript it hands to interpretation. -/
def finishSession : Logged (Option Interpretation) := fun p =>
  withLog (p.2 ++ p.1.pending) (Engine.finishSession.run p.1)

/-- The recognizer reports that the session ended. -/
def onEnd : Logged Unit := do
  if (← get).1.capturing then discard finishSession

/-- Stops the recognizer; a refusal, and a fault of the session it reports ended, are let go. -/
def stopRecognizer : Logged Unit := do
  let (e, log) ← get
  match e.recognizer with
  | none => pure ()
  | some rec =>
    let (rec', reply) := rec.stop
    set ({ e with recognizer := some rec' }, log)
    if reply == .reportsEnd then tryCatch onEnd fun _ => pure ()

/-- Closes the session and interprets what was heard. -/
def endCapture : Logged (Option Interpretation) := do
  if !(← get).1.capturing then return none
  stopRecognizer
  if (← get).1.capturing then finishSession else return (← get).1.lastResult

/-- Abandons the open session without interpreting it. -/
def close : Logged Unit := do
  if !(← get).1.capturing then return
  modify fun (e, log) => ({ e with session := none }, log)
  stopRecognizer
  Step.noting (Engine.setStatus readyText none)

end Noted

/-- A call, noting what capture hands over. -/
def Op.noted : Op → Logged Answer
  | .finish => .result <$> Noted.endCapture
  | .ended => (fun _ => .done) <$> Noted.onEnd
  | .close => (fun _ => .done) <$> Noted.close
  | op => Step.noting op.step

/-- Makes the calls one after another, as `Op.trace` does, and gives for each call also the
transcripts it handed to interpretation. -/
def Op.traceNoted : List Op → Engine → List (Except EngineFault Answer × Engine × List Transcript)
  | [], _ => []
  | op :: ops, e => (outcome (op.noted.run (e, [])), after (op.noted.run (e, []))) ::
      traceNoted ops (after (op.noted.run (e, []))).1

/-! ## The noted steps are the engine's steps -/

theorem run_map_withLog {x : Logged α} {s : Step α} {e : Engine} {log log' : List Transcript}
    (h : x.run (e, log) = withLog log' (s.run e)) (f : α → β) :
    (f <$> x).run (e, log) = withLog log' ((f <$> s).run e) := by
  rw [run_map, run_map, h]
  cases s.run e <;> rfl

namespace Noted

theorem finishSession_run (e : Engine) (log : List Transcript) :
    finishSession.run (e, log) = withLog (log ++ e.pending) (Engine.finishSession.run e) := rfl

theorem onEnd_run (e : Engine) (log : List Transcript) :
    onEnd.run (e, log) = withLog (log ++ e.pending) (Engine.onEnd.run e) := by
  rw [onEnd, run_get_bind, Engine.onEnd_run]
  by_cases hc : e.capturing = true
  · simp only [hc, if_true]
    exact run_map_withLog (finishSession_run e log) _
  · simp only [hc, Bool.false_eq_true, if_false, Engine.pending_of_idle (Bool.eq_false_iff.mpr hc),
      List.append_nil]
    rfl

/-- Stopping the recognizer hands over the open session's transcript exactly when the session
is closed by the time the recognizer has stopped. -/
theorem stopRecognizer_run (e : Engine) (log : List Transcript) :
    stopRecognizer.run (e, log) = .ok () (after (Engine.stopRecognizer.run e),
      log ++ if (after (Engine.stopRecognizer.run e)).capturing then [] else e.pending) := by
  obtain ⟨settings, gate, calculator, history, rec, speaker, audio, clock, session, last, status,
    spoken⟩ := e
  rw [stopRecognizer, run_get_bind, Engine.stopRecognizer_run]
  rcases rec with _ | rec
  · rcases session with _ | s
    · simp [Engine.pending, Engine.capturing]
    · simp [Engine.capturing]
  · rw [run_set_bind]
    by_cases hr : rec.stop.2 = .reportsEnd
    · simp only [hr, beq_self_eq_true, if_true, run_tryCatch_pure, onEnd_run, after_withLog, after_ok,
        Engine.onEnd_closes, Bool.false_eq_true, if_false]
      rfl
    · have hb : (rec.stop.2 == .reportsEnd) = false := by simpa using hr
      simp only [hb, hr, Bool.false_eq_true, if_false, after_ok]
      rcases session with _ | s
      · simp [Engine.pending, Engine.capturing]
      · simp [Engine.capturing]

/-- Ending capture hands over the open session's transcript, whoever closes the session. -/
theorem endCapture_run (e : Engine) (log : List Transcript) :
    endCapture.run (e, log) = withLog (log ++ e.pending) (Engine.endCapture.run e) := by
  rw [endCapture, run_get_bind, Engine.endCapture_run]
  by_cases hc : e.capturing = true
  · simp only [hc, Bool.not_true, Bool.false_eq_true, if_false, if_true]
    rw [run_bind_ok (stopRecognizer_run e log), run_get_bind]
    by_cases hc' : (after (Engine.stopRecognizer.run e)).capturing = true
    · have hp : (after (Engine.stopRecognizer.run e)).pending = e.pending := by
        simp only [Engine.pending, Engine.stopRecognizer_session hc']
      simp only [hc', if_true, List.append_nil]
      rw [finishSession_run, hp]
    · simp only [hc', Bool.false_eq_true, if_false]
      rw [run_get_bind]
      rfl
  · rw [if_pos (by simpa using hc), if_neg hc, Engine.pending_of_idle (Bool.eq_false_iff.mpr hc),
      List.append_nil]
    rfl

theorem close_run (e : Engine) (log : List Transcript) :
    close.run (e, log) = withLog log (Engine.close.run e) := by
  rw [close, run_get_bind, Engine.close_run]
  by_cases hc : e.capturing = true
  · simp only [hc, Bool.not_true, Bool.false_eq_true, if_false, if_true]
    have hp : ({ e with session := none } : Engine).pending = [] := Engine.pending_of_idle rfl
    show (stopRecognizer >>= fun _ => Step.noting (Engine.setStatus readyText none)).run
      ({ e with session := none }, log) = _
    rw [run_bind_ok (stopRecognizer_run _ log), hp, ite_self, List.append_nil]
    rfl
  · rw [if_pos (by simpa using hc), if_neg hc]
    rfl

end Noted

/-- What a call hands to interpretation: ending capture, by the page or by the recognizer, hands
over the open session's transcript. -/
def Op.handed : Op → Engine → List Transcript
  | .finish, e => e.pending
  | .ended, e => e.pending
  | _, _ => []

theorem Op.noted_run (op : Op) (e : Engine) (log : List Transcript) :
    op.noted.run (e, log) = withLog (log ++ op.handed e) (op.step.run e) := by
  cases op with
  | finish => exact run_map_withLog (Noted.endCapture_run e log) _
  | ended => exact run_map_withLog (Noted.onEnd_run e log) _
  | close =>
    simp only [Op.handed, List.append_nil]
    exact run_map_withLog (Noted.close_run e log) _
  | _ => simp only [Op.handed, List.append_nil]; rfl

/-! ## The engine refines the capture machine -/

/-- The open session of the engine holds the final results among those the machine's session
heard. -/
def Tracks (e : Engine) (c : Capture) : Prop :=
  e.session.map Session.finals = c.map (List.filter (·.final))

theorem tracks_none {e : Engine} : Tracks e none ↔ e.session = none := by
  simp [Tracks]

theorem Tracks.of_session {e e' : Engine} {c : Capture} (h : Tracks e c)
    (hs : e'.session = e.session) : Tracks e' c := by
  unfold Tracks; rw [hs]; exact h

theorem Tracks.capturing {e : Engine} {c : Capture} (h : Tracks e c) : e.capturing = c.isSome := by
  unfold Tracks at h
  cases hs : e.session <;> cases c <;> simp_all [Engine.capturing]

theorem Tracks.pending {e : Engine} {rs : List SpeechResult} (h : Tracks e (some rs)) :
    e.pending = (handoff rs).toList := by
  unfold Tracks at h
  obtain ⟨s, hs, hf⟩ := Option.map_eq_some_iff.mp h
  simp [Engine.pending, hs, Session.transcript_eq_handoff hf]

theorem Tracks.idle {e : Engine} (h : e.capturing = false) : Tracks e none :=
  tracks_none.mpr (Engine.session_eq_none h)

/-- Ending a session, by the page or by the recognizer, hands over what the session heard. -/
theorem Tracks.pending_ending {e : Engine} {c : Capture} (h : Tracks e c) (a : Except EngineFault Answer) :
    e.pending = (c.step .finish a).2 ∧ e.pending = (c.step .ended a).2 := by
  cases c with
  | none =>
    have hp := Engine.pending_of_idle (h.capturing.trans rfl)
    exact ⟨hp, hp⟩
  | some rs => exact ⟨h.pending, h.pending⟩

section Refines

variable {e : Engine} {c : Capture}

/-- A call that leaves the session alone and hands nothing over keeps the engine in step with
the machine. -/
theorem refines_quiet {op : Op} (h : Tracks e c) (hs : (after (op.step.run e)).session = e.session)
    (hq : ∀ a, c.step op a = (c, [])) (hh : op.handed e = []) :
    Tracks (after (op.step.run e)) (c.step op (outcome (op.step.run e))).1 ∧
      op.handed e = (c.step op (outcome (op.step.run e))).2 := by
  rw [hq, hh]
  exact ⟨h.of_session hs, rfl⟩

theorem refines_closing {op : Op} (hi : (after (op.step.run e)).capturing = false)
    (hq : ∀ a, (c.step op a).1 = none) (hh : ∀ a, op.handed e = (c.step op a).2) :
    Tracks (after (op.step.run e)) (c.step op (outcome (op.step.run e))).1 ∧
      op.handed e = (c.step op (outcome (op.step.run e))).2 := by
  rw [hq]
  exact ⟨Tracks.idle hi, hh _⟩

theorem refines_heard (h : Tracks e c) (r : SpeechResult) :
    Tracks (after ((Op.heard r).step.run e)) (c.step (.heard r) (outcome ((Op.heard r).step.run e))).1 ∧
      (Op.heard r).handed e = (c.step (.heard r) (outcome ((Op.heard r).step.run e))).2 := by
  have hrun : (Op.heard r).step.run e = .ok .done { e with session := e.session.map (·.add r) } :=
    rfl
  rw [hrun]
  cases c with
  | none =>
    refine ⟨tracks_none.mpr ?_, rfl⟩
    simp [tracks_none.mp h]
  | some rs =>
    refine ⟨?_, rfl⟩
    show Tracks { e with session := e.session.map (·.add r) } (some (rs ++ [r]))
    unfold Tracks at h ⊢
    obtain ⟨s, hs, hf⟩ := Option.map_eq_some_iff.mp h
    simp only [hs, Option.map_some, Session.finals_add, hf, List.filter_append, Option.some.injEq,
      List.append_cancel_left_eq]
    cases hr : r.final <;> simp [List.filter, hr]

theorem refines_begin (h : Tracks e c) :
    Tracks (after (Op.begin.step.run e)) (c.step .begin (outcome (Op.begin.step.run e))).1 ∧
      Op.begin.handed e = (c.step .begin (outcome (Op.begin.step.run e))).2 := by
  simp only [Op.step, after_run_map, outcome_run_map, Engine.beginCapture_run]
  cases c with
  | none =>
    have hc : e.capturing = false := by simp [Engine.capturing, tracks_none.mp h]
    rcases e.recognizer with _ | rec
    · exact ⟨h, rfl⟩
    · dsimp only
      rw [if_neg (by simp [hc])]
      rcases rec.start with msg | rec'
      · exact ⟨tracks_none.mpr rfl, rfl⟩
      · exact ⟨rfl, rfl⟩
  | some rs =>
    have hc : e.capturing = true := h.capturing.trans rfl
    rcases e.recognizer with _ | rec
    · exact ⟨h, rfl⟩
    · dsimp only
      rw [if_pos hc]
      exact ⟨h, rfl⟩

/-- One call: the engine's session after it tracks the machine's, and what the call hands over
is what the machine hands over. -/
theorem Op.refines (op : Op) (h : Tracks e c) :
    Tracks (after (op.step.run e)) (c.step op (outcome (op.step.run e))).1 ∧
      op.handed e = (c.step op (outcome (op.step.run e))).2 := by
  have quiet : ∀ op' : Op, (∀ a, c.step op' a = (c, [])) → op'.handed e = [] →
      (after (op'.step.run e)).session = e.session → _ := fun op' hq hh hs => refines_quiet h hs hq hh
  cases op with
  | begin => exact refines_begin h
  | heard r => exact refines_heard h r
  | finish =>
    exact refines_closing (by simpa only [Op.step, after_run_map] using Engine.endCapture_idle e)
      (fun a => by cases c <;> rfl) fun a => (h.pending_ending a).1
  | ended =>
    exact refines_closing (by simpa only [Op.step, after_run_map] using Engine.onEnd_closes e)
      (fun a => by cases c <;> rfl) fun a => (h.pending_ending a).2
  | close =>
    exact refines_closing (by simpa only [Op.step, after_run_map] using Engine.close_idle e)
      (fun a => by cases c <;> rfl) fun a => by cases c <;> rfl
  | readStatus =>
    exact quiet _ (fun a => by cases c <;> rfl) rfl (by simp [Op.step, Engine.readStatus_run])
  | failed _ | process _ | simulate _ | advance _ | toggleAudio =>
    exact quiet _ (fun a => by cases c <;> rfl) rfl ((Op.framed_step _ rfl).session_after e)

end Refines

/-- A whole run: noting what is handed over changes no answer and no engine, and what each call
hands over is what the machine hands over. -/
theorem traceNoted_refines (ops : List Op) {e : Engine} {c : Capture} (h : Tracks e c) :
    (Op.traceNoted ops e).map (fun x => (x.1, x.2.1)) = Op.trace ops e ∧
      (Op.traceNoted ops e).map (fun x => x.2.2) =
        Capture.run c (ops.zip ((Op.trace ops e).map Prod.fst)) := by
  induction ops generalizing e c with
  | nil => exact ⟨rfl, rfl⟩
  | cons op ops ih =>
    obtain ⟨ht, hh⟩ := op.refines h
    obtain ⟨ih1, ih2⟩ := ih ht
    simp only [Op.traceNoted, Op.trace, Op.noted_run, List.nil_append, outcome_withLog,
      after_withLog, List.map_cons, List.zip_cons_cons, Capture.run]
    exact ⟨by rw [ih1], by rw [ih2, hh]⟩

/-- From an engine with no session open, the transcripts that capture hands to interpretation
are, call by call, those of the capture machine: each session opened by a begin that answers
true and then finished or ended hands over, once, the transcript of the final results heard
while it was open, if one of them is not blank; an abandoned session, a refused begin and a
result heard outside a session hand over nothing. -/
theorem capture_hands_over_each_finished_session_once (e : Engine) (ops : List Op)
    (h : e.session = none) :
    (Op.traceNoted ops e).map (fun x => (x.1, x.2.1)) = Op.trace ops e ∧
      (Op.traceNoted ops e).map (fun x => x.2.2) =
        Capture.run none (ops.zip ((Op.trace ops e).map Prod.fst)) :=
  traceNoted_refines ops (tracks_none.mpr h)

theorem capture_hands_over_a_heard_level :
    (Engine.onMicrophone false).session = none ∧
      (Op.traceNoted [.begin, .heard ⟨"level 4", true, some 0.9, by decide⟩, .finish]
          (Engine.onMicrophone false)).map (fun x => (x.1, x.2.1)) =
        Op.trace [.begin, .heard ⟨"level 4", true, some 0.9, by decide⟩, .finish] (Engine.onMicrophone false) ∧
      (Op.traceNoted [.begin, .heard ⟨"level 4", true, some 0.9, by decide⟩, .finish]
          (Engine.onMicrophone false)).map (fun x => x.2.2) =
        Capture.run none ([.begin, .heard ⟨"level 4", true, some 0.9, by decide⟩, .finish].zip
          ((Op.trace [.begin, .heard ⟨"level 4", true, some 0.9, by decide⟩, .finish]
            (Engine.onMicrophone false)).map Prod.fst)) :=
  ⟨rfl, capture_hands_over_each_finished_session_once _ _ rfl⟩

end VoiceCalc
