-- Interpreting one transcript, in closed form. A sentence that cannot be read leaves the engine as
-- it was; one below the threshold or with no command only shows its outcome; an executed one
-- applies its commands, enters the history, shows its commands, and then reads the odds aloud when
-- audio feedback is on and it asked for them. Reading aloud fails only on a reported whole
-- percentage beyond the doubles. Ending capture interprets the session on the stopped engine,
-- whoever closes the session.
import VoiceCalc.Proofs.CommandRanges
import VoiceCalc.Proofs.EndOnStop

namespace VoiceCalc

/-- An interpretation as the history keeps it: its transcript's text and confidence, and every
command read, those that found no control included. -/
def Entry.of (r : Interpretation) : Entry :=
  ⟨r.transcript.text, r.transcript.confidence, r.commands⟩

def Interpretation.asksOdds (r : Interpretation) : Bool := r.commands.any (·.kind == .query)

/-- The status text that shows the outcome of an interpretation. -/
def Interpretation.shown (r : Interpretation) : String :=
  match r.outcome with
  | .executed => "Executed: " ++ r.feedback
  | .lowConfidence => lowConfidenceText
  | .unknownCommand => unknownText

theorem prefixed_ne_listening {p s : String} (hp : p = "Executed: " ∨ p = "Error: ") :
    p ++ s ≠ listeningText := by
  intro h
  have hl := congrArg String.toList h
  rcases hp with rfl | rfl <;> simp [listeningText] at hl

theorem Interpretation.shown_ne_listening (r : Interpretation) : r.shown ≠ listeningText := by
  unfold Interpretation.shown
  split
  · exact prefixed_ne_listening (.inl rfl)
  · decide
  · decide

namespace Engine

/-! ## Reading the odds aloud -/

/-- What the speaker says when it is asked to read the odds: the sentence of the odds, when the
speaker works, the host has the odds control and both odds are reported. -/
def oddsSpoken (e : Engine) : List String :=
  match e.speaker, e.calculator.describeOdds with
  | some .working, .ok (some text) => [text]
  | _, _ => []

/-- Reading the odds aloud fails: a speaker is there and a reported whole percentage lies beyond
the doubles. -/
def oddsFault (e : Engine) : Bool :=
  match e.speaker, e.calculator.describeOdds with
  | some _, .error .tooLarge => true
  | _, _ => false

theorem oddsSpoken_of_fault {e : Engine} (h : e.oddsFault = true) : e.oddsSpoken = [] := by
  unfold oddsFault at h
  unfold oddsSpoken
  split at h
  · rename_i _ _ sp hs hd
    rw [hs, hd]
    cases sp <;> rfl
  · cases h

/-- Reading the odds aloud adds what the speaker says, unless a percentage is beyond the
doubles. -/
theorem speakOdds_run (e : Engine) : speakOdds.run e =
    if e.oddsFault then .error .oddsTooLarge e
    else .ok () { e with spoken := e.spoken ++ e.oddsSpoken } := by
  obtain ⟨settings, gate, calculator, history, rec, speaker, audio, clock, session, last, status,
    spoken⟩ := e
  rw [speakOdds, run_get_bind]
  unfold oddsFault oddsSpoken
  dsimp only
  rcases speaker with _ | sp
  · simp only [List.append_nil]; rfl
  · rcases calculator.describeOdds with (_ | _) | (_ | text)
    · simp only [List.append_nil]; rfl
    · rfl
    · simp only [List.append_nil]; rfl
    · cases sp
      · rfl
      · simp only [List.append_nil]; rfl

/-! ## Interpreting a transcript -/

/-- The engine with an executed interpretation applied: its commands dispatched, its entry in
front of the history, and its commands shown for a while. -/
def enter (e : Engine) (r : Interpretation) : Engine :=
  { e with calculator := (e.calculator.dispatch r.commands).1, history := e.history.push (Entry.of r),
           status := StatusLine.setAt e.clock ("Executed: " ++ r.feedback) (some e.settings.resetSeconds) }

/-- The engine showing for a while the outcome of an interpretation. -/
def shows (e : Engine) (r : Interpretation) : Engine :=
  { e with status := StatusLine.setAt e.clock r.shown (some e.settings.resetSeconds) }

/-- What the speaker says for an interpretation executed on the engine: the sentence of the odds
after its commands, when audio feedback is on and the interpretation asks for the odds. -/
def readsAloud (e : Engine) (r : Interpretation) : List String :=
  if e.audio && r.asksOdds then (e.enter r).oddsSpoken else []

section Run

variable {α β : Type}

theorem run_lift_ok_bind (a : α) (k : α → Step β) (e : Engine) :
    ((lift (.ok a) : Step α) >>= k).run e = (k a).run e := rfl

theorem run_modify_bind (f : Engine → Engine) (k : PUnit → Step α) (e : Engine) :
    (modify f >>= k).run e = (k ()).run (f e) := rfl

end Run

variable {t : Transcript} {e : Engine} {r : Interpretation}

theorem process_run_unread {x : ReadError} (h : e.gate.interpret t = .error x) :
    (process t).run e = .error (.read x) e := by
  rw [process, run_get_bind, h]
  rfl

/-- A transcript below the threshold, or with no command, only shows its outcome. -/
theorem process_run_quiet (h : e.gate.interpret t = .ok r) (hx : r.outcome ≠ .executed) :
    (process t).run e = .ok r (e.shows r) := by
  rw [process, run_get_bind, h, ok_mapError, run_lift_ok_bind]
  unfold shows Interpretation.shown
  cases ho : r.outcome
  · exact absurd ho hx
  · rfl
  · rfl

/-- An executed transcript is entered, and then its odds are read aloud when audio feedback is on
and it asks for them. -/
theorem process_run_executed {failed : List Command} (h : e.gate.interpret t = .ok r)
    (hx : r.outcome = .executed) (hf : (e.calculator.dispatch r.commands).2 = .ok failed) :
    (process t).run e = if e.audio && r.asksOdds then
        (if (e.enter r).oddsFault then .error .oddsTooLarge (e.enter r)
         else .ok { r with failed } { e.enter r with spoken := e.spoken ++ (e.enter r).oddsSpoken })
      else .ok { r with failed } (e.enter r) := by
  have ht := (Gate.interpret_ok h).1
  rw [process, run_get_bind, h, ok_mapError, run_lift_ok_bind]
  simp only [hx]
  subst ht
  rw [run_modify_bind, hf, ok_mapError, run_lift_ok_bind, run_modify_bind, setStatus, run_modify_bind,
    run_get_bind]
  unfold Interpretation.asksOdds
  dsimp only
  by_cases hq : (e.audio && r.commands.any fun x => x.kind == CommandKind.query) = true
  · rw [if_pos hq, if_pos hq]
    show (speakOdds >>= fun _ => pure _).run (e.enter r) = _
    by_cases hfault : (e.enter r).oddsFault = true
    · rw [if_pos hfault, run_bind_error (by rw [speakOdds_run, if_pos hfault])]
    · rw [if_neg hfault, run_bind_ok (by rw [speakOdds_run, if_neg hfault])]
      rfl
  · rw [if_neg hq, if_neg hq]
    rfl

/-- The engine after an executed transcript: entered, with what the speaker said when audio
feedback is on and the transcript asks for the odds. A fault while reading aloud leaves the
entered engine, and its speaker says nothing then. -/
theorem process_after_executed (h : e.gate.interpret t = .ok r) (hx : r.outcome = .executed) :
    after ((process t).run e) = { e.enter r with spoken := e.spoken ++ e.readsAloud r } := by
  rw [readsAloud]
  obtain ⟨failed, hf⟩ := Calculator.dispatch_converts (c := e.calculator) (Gate.interpret_ok h).2
  rw [process_run_executed h hx hf]
  by_cases hq : (e.audio && r.asksOdds) = true
  · rw [if_pos hq, if_pos hq]
    by_cases hfault : (e.enter r).oddsFault = true
    · rw [if_pos hfault, after_error, oddsSpoken_of_fault hfault, List.append_nil]
      rfl
    · rw [if_neg hfault, after_ok]
  · rw [if_neg hq, if_neg hq, after_ok, List.append_nil]
    rfl

theorem simulate_eq (t : Transcript) : simulate t = (·.commands) <$> process t := by
  unfold simulate
  rfl

/-! ## Ending capture -/

/-- Ending capture with a session open interprets the session of the stopped engine. When the
recognizer reports the end while it stops, that runs under the handler of stopping, and the
answer is the last result the interpretation left. -/
theorem endCapture_run_open (hc : e.capturing = true) :
    endCapture.run e = if e.recognizer.any (·.stop.2 == .reportsEnd) then
        .ok (after (finishSession.run (stopped e))).lastResult (after (finishSession.run (stopped e)))
      else finishSession.run (stopped e) := by
  rw [endCapture_run, if_pos hc]
  have hstop := stopRecognizer_run e
  rcases hr : e.recognizer with _ | rec
  · have he : stopped e = e := by
      obtain ⟨settings, gate, calculator, history, rec, speaker, audio, clock, session, last, status,
        spoken⟩ := e
      simp only at hr
      subst hr
      rfl
    rw [hr] at hstop
    rw [hstop, after_ok, if_pos hc, he]
    rfl
  · have he : stopped e = { e with recognizer := some rec.stop.1 } := by
      simp only [stopped, hr, Option.map_some]
    rw [hr] at hstop
    rw [hstop, after_ok, he]
    have hc' : ({ e with recognizer := some rec.stop.1 } : Engine).capturing = true := hc
    by_cases hrep : rec.stop.2 = .reportsEnd
    · rw [if_pos hrep, onEnd_closes, if_neg Bool.false_ne_true, onEnd_after hc']
      simp only [Option.any_some, hrep, beq_self_eq_true, if_true]
    · have hb : (rec.stop.2 == .reportsEnd) = false := by simpa using hrep
      rw [if_neg hrep, if_pos hc']
      simp only [Option.any_some, hb, Bool.false_eq_true, if_false]

/-- Whoever closes the session, ending capture leaves the engine that interpreting the session of
the stopped engine leaves. -/
theorem endCapture_after (hc : e.capturing = true) :
    after (endCapture.run e) = after (finishSession.run (stopped e)) := by
  rw [endCapture_run_open hc]
  split
  · rfl
  · rfl

end Engine

end VoiceCalc
