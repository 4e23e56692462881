-- The listening status and the open session. Opening a session shows the listening text for good,
-- and every call that closes a session, or sets the status otherwise, shows another text, as long
-- as the transcript handed over when a session closes can be read: reading the status then gives
-- the listening text only while a session is open. A transcript that cannot be read fails while it
-- is interpreted, after its session is already closed, and leaves the listening text shown.
import VoiceCalc.Proofs.HostCalls

namespace VoiceCalc

/-! ## The invariant -/

theorem StatusLine.readAt_text (s : StatusLine) (clock : Float) (idle : String) :
    (s.readAt clock idle).text = s.text ∨ (s.readAt clock idle).text = idle := by
  unfold StatusLine.readAt
  split
  · split
    · exact .inr rfl
    · exact .inl rfl
  · exact .inl rfl

namespace Engine

/-- The status shows the listening text only while a session is open. -/
def ListeningMeansCapturing (e : Engine) : Prop := e.status.text = listeningText → e.capturing = true

theorem idleText_ne_listening (e : Engine) : e.idleText ≠ listeningText := by
  unfold idleText
  split <;> decide

namespace ListeningMeansCapturing

variable {e e' : Engine}

theorem of_text_ne (h : e.status.text ≠ listeningText) : e.ListeningMeansCapturing :=
  fun hl => absurd hl h

theorem of_capturing (h : e.capturing = true) : e.ListeningMeansCapturing := fun _ => h

/-- An engine with the same status text and the same session state keeps the invariant. -/
theorem of_same (h : e.ListeningMeansCapturing) (hs : e'.status.text = e.status.text)
    (hc : e'.capturing = e.capturing) : e'.ListeningMeansCapturing := by
  intro hl
  rw [hc]
  exact h (hs ▸ hl)

/-- The status line as read shows the listening text only while a session is open. -/
theorem readAt (h : e.ListeningMeansCapturing) :
    (e.status.readAt e.clock e.idleText).text = listeningText → e.capturing = true := by
  intro ht
  rcases StatusLine.readAt_text e.status e.clock e.idleText with hs | hs
  · exact h (hs ▸ ht)
  · exact absurd (hs ▸ ht) (idleText_ne_listening e)

/-- Reading the status gives the listening text only while a session is open. -/
theorem read (h : e.ListeningMeansCapturing) (hl : outcome (readStatus.run e) = .ok listeningText) :
    e.capturing = true := by
  rw [readStatus_run] at hl
  exact h.readAt (Except.ok.inj hl)

end ListeningMeansCapturing

theorem make_listeningMeansCapturing {s : Settings} {c : Calculator} {rec : Option Recognizer}
    {sp : Option Speaker} {e : Engine} (h : make s c rec sp = .ok e) : e.ListeningMeansCapturing := by
  obtain ⟨gate, history, rfl⟩ := make_eq_ok h
  apply ListeningMeansCapturing.of_text_ne
  dsimp only
  split <;> decide

/-! ## What each call shows -/

variable {t : Transcript} {e : Engine} {r : Interpretation}

/-- Interpreting a transcript that can be read shows its outcome, whether or not reading the odds
aloud fails after it. -/
theorem process_status (h : e.gate.interpret t = .ok r) :
    (after ((process t).run e)).status.text = r.shown := by
  by_cases hx : r.outcome = .executed
  · rw [process_after_executed h hx]
    unfold Interpretation.shown
    rw [hx]
    rfl
  · rw [process_run_quiet h hx]
    rfl

theorem process_after_unread {x : ReadError} (h : e.gate.interpret t = .error x) :
    after ((process t).run e) = e := by
  rw [process_run_unread h]
  rfl

/-- Interpreting a transcript keeps the invariant: one that cannot be read changes nothing, and
one that can shows its outcome. -/
theorem process_listening (h : e.ListeningMeansCapturing) :
    (after ((process t).run e)).ListeningMeansCapturing := by
  cases hi : e.gate.interpret t with
  | error x => rw [process_after_unread hi]; exact h
  | ok r =>
    apply ListeningMeansCapturing.of_text_ne
    rw [process_status hi]
    exact r.shown_ne_listening

/-- Closing a session whose transcript can be read leaves a status other than the listening text:
the outcome of the transcript, or, with nothing heard, the idle text in place of the listening
one. -/
theorem finishSession_status_ne (hr : ∀ t ∈ e.pending, (e.gate.interpret t).isOk = true) :
    (after (finishSession.run e)).status.text ≠ listeningText := by
  rw [finishSession_run]
  rcases ht : e.session.bind Session.transcript with _ | t
  · dsimp only
    by_cases hl : e.status.text = listeningText
    · rw [if_pos (beq_iff_eq.mpr hl)]
      show readyText ≠ listeningText
      decide
    · rw [if_neg (by simpa using hl)]
      exact hl
  · have hok := hr t (by simp [pending, ht])
    obtain ⟨r, hint⟩ : ∃ r, e.gate.interpret t = .ok r := by
      cases hi : e.gate.interpret t with
      | ok r => exact ⟨r, rfl⟩
      | error x => rw [hi] at hok; cases hok
    have hne : (after ((process t).run { e with session := none })).status.text ≠ listeningText := by
      rw [process_status (e := { e with session := none }) hint]
      exact Interpretation.shown_ne_listening r
    dsimp only
    cases hrun : (process t).run { e with session := none } with
    | ok r' e' => rw [hrun] at hne; exact hne
    | error x e' => rw [hrun] at hne; exact hne

end Engine

/-! ## Along a run -/

namespace HostOp

/-- The transcript a call hands over when it closes a session can be read. -/
def handsReadable : HostOp → Engine → Bool
  | .call op, e => (op.handed e).all fun t => (e.gate.interpret t).isOk
  | .reportOdds _ _, _ => true

theorem handsReadable_call {op : Op} {e : Engine} :
    (HostOp.call op).handsReadable e = true ↔ ∀ t ∈ op.handed e, (e.gate.interpret t).isOk = true :=
  List.all_eq_true

open Engine in
/-- Every call keeps the listening text to an open session, as long as what it hands over can be
read. -/
theorem listening_step (op : HostOp) {e : Engine} (hr : op.handsReadable e = true)
    (h : e.ListeningMeansCapturing) : (after (op.step.run e)).ListeningMeansCapturing := by
  cases op with
  | reportOdds p q => exact h
  | call op =>
    have hr := handsReadable_call.mp hr
    cases op with
    | begin =>
      show (after ((Answer.flag <$> beginCapture).run e)).ListeningMeansCapturing
      rw [after_run_map, beginCapture_run]
      rcases e.recognizer with _ | rec
      · exact h
      · dsimp only
        by_cases hc : e.capturing = true
        · rw [if_pos hc]; exact h
        · rw [if_neg hc]
          rcases rec.start with msg | rec'
          · exact .of_text_ne (prefixed_ne_listening (.inr rfl))
          · exact .of_capturing rfl
    | finish =>
      show (after ((Answer.result <$> endCapture).run e)).ListeningMeansCapturing
      rw [after_run_map]
      by_cases hc : e.capturing = true
      · rw [endCapture_after hc]
        exact .of_text_ne (finishSession_status_ne hr)
      · rw [endCapture_run, if_neg hc]; exact h
    | heard r =>
      show (after (((fun _ => Answer.done) <$> onResult r).run e)).ListeningMeansCapturing
      rw [after_run_map]
      exact h.of_same rfl Option.isSome_map
    | failed code => exact .of_text_ne (prefixed_ne_listening (.inr rfl))
    | ended =>
      show (after (((fun _ => Answer.done) <$> onEnd).run e)).ListeningMeansCapturing
      rw [after_run_map]
      by_cases hc : e.capturing = true
      · rw [onEnd_after hc]
        exact .of_text_ne (finishSession_status_ne hr)
      · rw [onEnd_run, if_neg hc]; exact h
    | close =>
      show (after (((fun _ => Answer.done) <$> Engine.close).run e)).ListeningMeansCapturing
      rw [after_run_map, close_run]
      by_cases hc : e.capturing = true
      · rw [if_pos hc]
        exact .of_text_ne (show readyText ≠ listeningText by decide)
      · rw [if_neg hc]; exact h
    | process t =>
      show (after ((Answer.interpretation <$> Engine.process t).run e)).ListeningMeansCapturing
      rw [after_run_map]
      exact process_listening h
    | simulate t =>
      show (after ((Answer.commands <$> Engine.simulate t).run e)).ListeningMeansCapturing
      rw [after_run_map, simulate_eq, after_run_map]
      exact process_listening h
    | advance seconds => exact h
    | readStatus => exact h.readAt
    | toggleAudio => exact h

end HostOp

/-- Along a run from a new engine whose closed sessions can be read, reading the status gives the
listening text only while a session is open. -/
theorem listening_shown_only_while_capturing {s : Settings} {c : Calculator} {rec : Option Recognizer}
    {sp : Option Speaker} {e : Engine} (hm : Engine.make s c rec sp = .ok e) (ops : List HostOp)
    (hr : HostOp.Along (fun op e => op.handsReadable e = true) ops e) :
    ∀ x ∈ HostOp.trace ops e,
      outcome (Engine.readStatus.run x.2) = .ok listeningText → x.2.capturing = true := by
  intro x hx
  have hx' := HostOp.trace_keeps _ (fun op _ hq he => op.listening_step hq he) hr
    (Engine.make_listeningMeansCapturing hm) x hx
  exact hx'.read

/-- A session that hears only an interim text closes with nothing to interpret, and the listening
text gives way to the idle one. -/
theorem listening_around_an_interim_text :
    Engine.make Settings.standard ⟨CalcState.fresh, allControls⟩
        (some (.microphone ⟨none, false, false, 0, 0⟩)) none = .ok (Engine.onMicrophone false) ∧
      HostOp.Along (fun op e => op.handsReadable e = true)
        [.call .begin, .call (.heard ⟨"level", false, none, by decide⟩), .call .finish, .call .readStatus]
        (Engine.onMicrophone false) ∧
      ∀ x ∈ HostOp.trace
          [.call .begin, .call (.heard ⟨"level", false, none, by decide⟩), .call .finish, .call .readStatus]
          (Engine.onMicrophone false),
        outcome (Engine.readStatus.run x.2) = .ok listeningText → x.2.capturing = true := by
  have hr : HostOp.Along (fun op e => op.handsReadable e = true)
      [.call .begin, .call (.heard ⟨"level", false, none, by decide⟩), .call .finish, .call .readStatus]
      (Engine.onMicrophone false) := ⟨rfl, rfl, rfl, rfl, trivial⟩
  exact ⟨Engine.make_onMicrophone false, hr,
    listening_shown_only_while_capturing (Engine.make_onMicrophone false) _ hr⟩

set_option maxRecDepth 20000 in
/-- A sentence spelled with a long s is no numeral word. Its session is closed before it is
interpreted, the interpretation fails, and reading the status still gives the listening text with
no session open. -/
theorem unreadable_session_leaves_listening_shown :
    outcome (Engine.readStatus.run (HostOp.run
        [.call .begin, .call (.heard ⟨"ſix", true, some 0.9, by decide⟩), .call .finish]
        (Engine.onMicrophone false))) = .ok listeningText ∧
      (HostOp.run [.call .begin, .call (.heard ⟨"ſix", true, some 0.9, by decide⟩), .call .finish]
        (Engine.onMicrophone false)).capturing = false := by
  decide +kernel

end VoiceCalc
