-- The engine's steps, one equation each. Interpreting a transcript never looks at the
-- recognizer, the open session or the last result, so every step built from interpretation
-- commutes with any change of those three parts; closing a session commutes with a change of
-- the recognizer, and stopping the recognizer never fails.
import VoiceCalc.Engine

namespace VoiceCalc

/-! ## Running a step -/

section Run

variable {ε σ α β : Type}

/-- The state a run leaves, whether it gave a value or failed. -/
def after : EStateM.Result ε σ α → σ
  | .ok _ s => s
  | .error _ s => s

@[simp] theorem after_ok (a : α) (s : σ) : after (.ok a s : EStateM.Result ε σ α) = s := rfl
@[simp] theorem after_error (x : ε) (s : σ) : after (.error x s : EStateM.Result ε σ α) = s := rfl

def outcome : EStateM.Result ε σ α → Except ε α
  | .ok a _ => .ok a
  | .error x _ => .error x

theorem run_bind_ok {s : EStateM ε σ α} {k : α → EStateM ε σ β} {e e' : σ} {a : α}
    (h : s.run e = .ok a e') : (s >>= k).run e = (k a).run e' := by
  simp only [EStateM.run, bind, EStateM.bind] at h ⊢
  rw [h]

theorem run_bind_error {s : EStateM ε σ α} {k : α → EStateM ε σ β} {e e' : σ} {x : ε}
    (h : s.run e = .error x e') : (s >>= k).run e = .error x e' := by
  simp only [EStateM.run, bind, EStateM.bind] at h ⊢
  rw [h]

theorem run_get_bind (k : σ → EStateM ε σ α) (e : σ) : (get >>= k).run e = (k e).run e := rfl

theorem run_set_bind (k : PUnit → EStateM ε σ α) (e e' : σ) :
    (set e' >>= k).run e = (k ()).run e' := rfl

theorem run_map (f : α → β) (s : EStateM ε σ α) (e : σ) :
    (f <$> s).run e = match s.run e with
      | .ok a e' => .ok (f a) e'
      | .error x e' => .error x e' := by
  cases h : s.run e with
  | ok a e' =>
    simp only [EStateM.run, Functor.map, EStateM.map] at h ⊢
    rw [h]
  | error x e' =>
    simp only [EStateM.run, Functor.map, EStateM.map] at h ⊢
    rw [h]

@[simp] theorem after_run_map (f : α → β) (s : EStateM ε σ α) (e : σ) :
    after ((f <$> s).run e) = after (s.run e) := by
  rw [run_map]; cases s.run e <;> rfl

@[simp] theorem outcome_run_map (f : α → β) (s : EStateM ε σ α) (e : σ) :
    outcome ((f <$> s).run e) = f <$> outcome (s.run e) := by
  rw [run_map]; cases s.run e <;> rfl

theorem run_tryCatch_pure (s : EStateM ε σ Unit) (e : σ) :
    (tryCatch s fun _ => pure ()).run e = .ok () (after (s.run e)) := by
  show EStateM.tryCatch s (fun _ => pure ()) e = _
  unfold EStateM.tryCatch
  cases h : s.run e with
  | ok a e' => simp only [EStateM.run] at h; simp only [h]; rfl
  | error x e' => simp only [EStateM.run] at h; simp only [h]; rfl

end Run

namespace Engine

variable {α β : Type}

/-- A made engine holds what it was given, with no session, no result, nothing spoken and a
status line with no time. -/
theorem make_eq_ok {s : Settings} {c : Calculator} {r : Option Recognizer} {sp : Option Speaker}
    {e : Engine} (h : make s c r sp = .ok e) :
    ∃ gate history, e =
      { settings := s, gate, calculator := c, history, recognizer := r, speaker := sp,
        audio := s.audio, clock := 0.0, session := none, lastResult := none,
        status := ⟨if r.isSome then readyText else unsupportedText, none⟩, spoken := [] } := by
  unfold make at h
  obtain ⟨gate, -, h⟩ := except_bind_eq_ok.1 h
  obtain ⟨history, -, h⟩ := except_bind_eq_ok.1 h
  exact ⟨gate, history, (Except.ok.inj h).symm⟩

/-- The result of a step with the engine it leaves changed by `g`. -/
def mapState (g : Engine → Engine) : EStateM.Result EngineFault Engine α → EStateM.Result EngineFault Engine α
  | .ok a e => .ok a (g e)
  | .error x e => .error x (g e)

@[simp]
theorem after_mapState (g : Engine → Engine) (r : EStateM.Result EngineFault Engine α) :
    after (mapState g r) = g (after r) := by
  cases r <;> rfl

@[simp]
theorem outcome_mapState (g : Engine → Engine) (r : EStateM.Result EngineFault Engine α) :
    outcome (mapState g r) = outcome r := by
  cases r <;> rfl

/-! ## Steps that commute with a change of the engine -/

/-- Running `s` on `g e` is running it on `e` and changing the engine it leaves by `g`. -/
def Commutes (g : Engine → Engine) (s : Step α) : Prop :=
  ∀ e, s.run (g e) = mapState g (s.run e)

section Commutes

variable {g : Engine → Engine}

theorem Commutes.pure (a : α) : Commutes g (pure a : Step α) := fun _ => rfl

theorem Commutes.lift (r : Except EngineFault α) : Commutes g (lift r) := by
  cases r <;> intro e <;> rfl

theorem Commutes.bind {s : Step α} {k : α → Step β} (hs : Commutes g s)
    (hk : ∀ a, Commutes g (k a)) : Commutes g (s >>= k) := by
  intro e
  cases h : s.run e with
  | ok a e' =>
    have hg : s.run (g e) = .ok a (g e') := by rw [hs e, h]; rfl
    rw [run_bind_ok hg, run_bind_ok h, hk a e']
  | error x e' =>
    have hg : s.run (g e) = .error x (g e') := by rw [hs e, h]; rfl
    rw [run_bind_error hg, run_bind_error h]; rfl

theorem Commutes.map (f : α → β) {s : Step α} (hs : Commutes g s) : Commutes g (f <$> s) := by
  intro e
  rw [run_map, run_map, hs e]
  cases s.run e <;> rfl

theorem Commutes.modify {f : Engine → Engine} (hf : ∀ e, f (g e) = g (f e)) :
    Commutes g (modify f) := by
  intro e
  show EStateM.Result.ok () (f (g e)) = _
  rw [hf]; rfl

/-- A step that reads the engine commutes when what it does next does not depend on the part
that `g` changes. -/
theorem Commutes.get_bind {k : Engine → Step α} (hk : ∀ e, k (g e) = k e)
    (hk' : ∀ e, Commutes g (k e)) : Commutes g (get >>= k) := by
  intro e
  show (k (g e)).run (g e) = mapState g ((k e).run e)
  rw [hk]; exact hk' e e

end Commutes

/-! ## The outer parts of the engine -/

/-- The engine with its recognizer, open session and last result changed by `ρ`, `σ` and `ℓ`:
the three parts that interpreting a transcript neither reads nor writes. -/
def mapOuter (ρ : Option Recognizer → Option Recognizer) (σ : Option Session → Option Session)
    (ℓ : Option Interpretation → Option Interpretation) (e : Engine) : Engine :=
  { e with recognizer := ρ e.recognizer, session := σ e.session, lastResult := ℓ e.lastResult }

/-- A step that neither reads nor writes the recognizer, the open session or the last result. -/
def Framed (s : Step α) : Prop := ∀ ρ σ ℓ, Commutes (mapOuter ρ σ ℓ) s

@[simp] theorem mapOuter_recognizer (ρ σ ℓ) (e : Engine) :
    (mapOuter ρ σ ℓ e).recognizer = ρ e.recognizer := rfl

theorem Framed.after_eq {s : Step α} (hs : Framed s) (e : Engine) :
    mapOuter (fun _ => e.recognizer) (fun _ => e.session) (fun _ => e.lastResult) (after (s.run e)) =
      after (s.run e) := by
  have h := hs (fun _ => e.recognizer) (fun _ => e.session) (fun _ => e.lastResult) e
  have he : mapOuter (fun _ => e.recognizer) (fun _ => e.session) (fun _ => e.lastResult) e = e := rfl
  rw [he] at h
  have h' := congrArg after h
  rw [after_mapState] at h'
  exact h'.symm

theorem Framed.session_after {s : Step α} (hs : Framed s) (e : Engine) :
    (after (s.run e)).session = e.session := by
  rw [← hs.after_eq e]; rfl

theorem Framed.lastResult_after {s : Step α} (hs : Framed s) (e : Engine) :
    (after (s.run e)).lastResult = e.lastResult := by
  rw [← hs.after_eq e]; rfl

theorem framed_setStatus (text : String) (d : Option Float) : Framed (setStatus text d) :=
  fun _ _ _ => Commutes.modify fun _ => rfl

theorem framed_advance (seconds : Float) : Framed (advance seconds) :=
  fun _ _ _ => Commutes.modify fun _ => rfl

theorem framed_toggleAudio : Framed toggleAudio := fun _ _ _ =>
  Commutes.bind (Commutes.modify fun _ => rfl) fun _ =>
    Commutes.get_bind (fun _ => rfl) fun _ => Commutes.pure _

theorem framed_onError (code : String) : Framed (onError code) := fun ρ σ ℓ =>
  Commutes.get_bind (fun _ => rfl) fun _ => framed_setStatus _ _ ρ σ ℓ

/-- Reading the odds aloud copies the engine it read, so it is checked one speaker and one
reading of the odds at a time. -/
theorem framed_speakOdds : Framed speakOdds := by
  intro ρ σ ℓ e
  obtain ⟨settings, gate, calculator, history, rec, speaker, audio, clock, session, last, status,
    spoken⟩ := e
  rw [speakOdds, run_get_bind, run_get_bind]
  dsimp only [mapOuter]
  rcases speaker with _ | speaker
  · rfl
  · rcases calculator.describeOdds with (_ | _) | (_ | text)
    all_goals (try rfl)
    cases speaker <;> rfl

theorem framed_process (t : Transcript) : Framed (process t) := by
  intro ρ σ ℓ
  unfold process
  refine Commutes.get_bind (fun _ => rfl) fun e => Commutes.bind (Commutes.lift _) fun r => ?_
  split
  · exact Commutes.bind (framed_setStatus _ _ ρ σ ℓ) fun _ => Commutes.pure _
  · exact Commutes.bind (framed_setStatus _ _ ρ σ ℓ) fun _ => Commutes.pure _
  · refine Commutes.bind (Commutes.modify fun _ => rfl) fun _ =>
      Commutes.bind (Commutes.lift _) fun failed => ?_
    refine Commutes.bind (Commutes.modify fun _ => rfl) fun _ =>
      Commutes.bind (framed_setStatus _ _ ρ σ ℓ) fun _ => ?_
    refine Commutes.get_bind (fun _ => rfl) fun e' => ?_
    split
    · exact Commutes.bind (framed_speakOdds ρ σ ℓ) fun _ => Commutes.pure _
    · exact Commutes.pure _

theorem framed_simulate (t : Transcript) : Framed (simulate t) := fun ρ σ ℓ =>
  Commutes.bind (framed_process t ρ σ ℓ) fun _ => Commutes.pure _

/-- A result joins the session whatever the recognizer and the last result are. -/
theorem commutes_onResult (ρ ℓ) (r : SpeechResult) : Commutes (mapOuter ρ id ℓ) (onResult r) :=
  Commutes.modify fun _ => rfl

/-- Reading the status lets an expired text give way to the idle text, and changes nothing else. -/
theorem readStatus_run (e : Engine) : readStatus.run e =
    .ok (e.status.readAt e.clock e.idleText).text { e with status := e.status.readAt e.clock e.idleText } :=
  rfl

/-- Reading the status looks at the recognizer only to know whether there is one. -/
theorem commutes_readStatus {ρ} (hρ : ∀ r, (ρ r).isSome = r.isSome) (σ ℓ) :
    Commutes (mapOuter ρ σ ℓ) readStatus := by
  intro e
  have hi : (mapOuter ρ σ ℓ e).idleText = e.idleText := by
    unfold idleText supported
    rw [mapOuter_recognizer, hρ]
  rw [readStatus_run, readStatus_run, hi]
  rfl

/-! ## Closing a session -/

/-- Closing a session: the session is gone before its transcript is interpreted, and the
interpretation becomes the last result; with nothing heard the listening status gives way to the
idle one. -/
theorem finishSession_run (e : Engine) :
    finishSession.run e = match e.session.bind Session.transcript with
      | none => .ok none (if e.status.text == listeningText
          then { e with session := none, status := StatusLine.setAt e.clock readyText none }
          else { e with session := none })
      | some t => match (process t).run { e with session := none } with
        | .ok r e' => .ok (some r) { e' with lastResult := some r }
        | .error x e' => .error x e' := by
  rw [finishSession, run_get_bind, run_set_bind]
  rcases e.session.bind Session.transcript with _ | t
  · by_cases h : e.status.text == listeningText
    · simp only [h, if_true]; rfl
    · simp only [h]; rfl
  · cases h : (process t).run { e with session := none } with
    | ok r e' => 
      rw [run_bind_ok h]
      simp only [h]; rfl
    | error x e' =>
      rw [run_bind_error h]
      simp only [h]

theorem finishSession_session (e : Engine) : (after (finishSession.run e)).session = none := by
  rw [finishSession_run]
  rcases e.session.bind Session.transcript with _ | t
  · dsimp only; split <;> rfl
  · have hs := (framed_process t).session_after { e with session := none }
    dsimp only
    cases h : (process t).run { e with session := none } with
    | ok r e' => rw [h] at hs; exact hs
    | error x e' => rw [h] at hs; exact hs

theorem commutes_finishSession (ρ) : Commutes (mapOuter ρ id id) finishSession := by
  intro e
  rw [finishSession_run, finishSession_run]
  show (match e.session.bind Session.transcript with
      | none => _
      | some t => _) = _
  rcases e.session.bind Session.transcript with _ | t
  · have hs : (mapOuter ρ id id e).status = e.status := rfl
    dsimp only
    rw [hs]
    by_cases h : (e.status.text == listeningText) = true
    · simp only [h, if_true]; rfl
    · simp only [h, if_false, Bool.false_eq_true]; rfl
  · have hp := framed_process t ρ id id { e with session := none }
    dsimp only
    rw [show ({ mapOuter ρ id id e with session := none } : Engine) = mapOuter ρ id id { e with session := none } from rfl, hp]
    cases (process t).run { e with session := none } <;> rfl

theorem finishSession_recognizer (e : Engine) :
    (after (finishSession.run e)).recognizer = e.recognizer := by
  have h := commutes_finishSession (fun _ => e.recognizer) e
  have he : mapOuter (fun _ => e.recognizer) id id e = e := rfl
  rw [he] at h
  have h' := congrArg (fun r => (after r).recognizer) h
  simp only [after_mapState, mapOuter_recognizer] at h'
  exact h'

/-- The last result after closing a session is the interpretation it gave; with nothing to
interpret, or when interpreting failed, it is the last result as it was. -/
theorem finishSession_lastResult (e : Engine) : match finishSession.run e with
    | .ok v s => s.lastResult = v.or e.lastResult
    | .error _ s => s.lastResult = e.lastResult := by
  rw [finishSession_run]
  rcases e.session.bind Session.transcript with _ | t
  · dsimp only; split <;> rfl
  · have hl := (framed_process t).lastResult_after { e with session := none }
    dsimp only
    cases h : (process t).run { e with session := none } with
    | ok r e' => rfl
    | error x e' => rw [h] at hl; exact hl

theorem finishSession_idle (e : Engine) : (after (finishSession.run e)).capturing = false := by
  simp [capturing, finishSession_session]

theorem onEnd_run (e : Engine) : onEnd.run e =
    if e.capturing then ((fun _ => ()) <$> finishSession).run e else .ok () e := by
  rw [onEnd, run_get_bind]
  split <;> rfl

theorem commutes_onEnd (ρ) : Commutes (mapOuter ρ id id) onEnd :=
  Commutes.get_bind (fun _ => rfl) fun e => by
    by_cases h : e.capturing = true
    · simp only [h, if_true]; exact Commutes.map _ (commutes_finishSession ρ)
    · simp only [h, Bool.false_eq_true, if_false]; exact Commutes.pure _

theorem onEnd_after {e : Engine} (h : e.capturing = true) :
    after (onEnd.run e) = after (finishSession.run e) := by
  rw [onEnd_run, if_pos h, after_run_map]

theorem onEnd_closes (e : Engine) : (after (onEnd.run e)).capturing = false := by
  by_cases hc : e.capturing = true
  · rw [onEnd_after hc, finishSession_idle]
  · rw [onEnd_run, if_neg hc]
    exact Bool.eq_false_iff.mpr hc

theorem stopRecognizer_run (e : Engine) : stopRecognizer.run e = match e.recognizer with
    | none => .ok () e
    | some rec => .ok () (if rec.stop.2 = .reportsEnd
        then after (onEnd.run { e with recognizer := some rec.stop.1 })
        else { e with recognizer := some rec.stop.1 }) := by
  rw [stopRecognizer, run_get_bind]
  rcases e.recognizer with _ | rec
  · rfl
  · dsimp only
    obtain ⟨rec', reply⟩ := rec.stop
    rw [run_set_bind]
    by_cases h : reply = .reportsEnd
    · simp only [h, beq_self_eq_true, if_true]
      exact run_tryCatch_pure _ _
    · have hb : (reply == .reportsEnd) = false := by simpa using h
      simp only [hb, h, Bool.false_eq_true, if_false]
      rfl

theorem stopRecognizer_ok (e : Engine) :
    stopRecognizer.run e = .ok () (after (stopRecognizer.run e)) := by
  rw [stopRecognizer_run]
  split <;> rfl

/-- A session still open after the recognizer stopped is the session that was open before. -/
theorem stopRecognizer_session {e : Engine} (h : (after (stopRecognizer.run e)).capturing = true) :
    (after (stopRecognizer.run e)).session = e.session := by
  revert h
  rw [stopRecognizer_run]
  rcases e.recognizer with _ | rec
  · intro _; rfl
  · intro h
    by_cases hr : rec.stop.2 = .reportsEnd
    · simp only [hr, if_true, after_ok, onEnd_closes] at h
      exact absurd h Bool.false_ne_true
    · simp only [hr, if_false, after_ok]

theorem stopRecognizer_idle {e : Engine} (h : e.capturing = false) :
    after (stopRecognizer.run e) = { e with recognizer := e.recognizer.map fun r => r.stop.1 } := by
  obtain ⟨settings, gate, calculator, history, rec, speaker, audio, clock, session, last, status,
    spoken⟩ := e
  rw [stopRecognizer_run]
  rcases rec with _ | rec
  · rfl
  · dsimp only [after]
    split
    · rw [onEnd_run, if_neg (by simp only [capturing] at h ⊢; simp [h])]
      rfl
    · rfl

theorem endCapture_run (e : Engine) : endCapture.run e =
    if e.capturing then
      if (after (stopRecognizer.run e)).capturing then finishSession.run (after (stopRecognizer.run e))
      else .ok (after (stopRecognizer.run e)).lastResult (after (stopRecognizer.run e))
    else .ok none e := by
  rw [endCapture, run_get_bind]
  by_cases hc : e.capturing = true
  · simp only [hc, Bool.not_true, Bool.false_eq_true, if_false, if_true]
    rw [run_bind_ok (stopRecognizer_ok e), run_get_bind]
    split <;> rfl
  · simp only [hc, Bool.not_false, if_true]
    rfl

theorem close_run (e : Engine) : close.run e =
    if e.capturing then
      (setStatus readyText none).run (after (stopRecognizer.run { e with session := none }))
    else .ok () e := by
  rw [close, run_get_bind]
  by_cases hc : e.capturing = true
  · simp only [hc, Bool.not_true, Bool.false_eq_true, if_false, if_true]
    show (stopRecognizer >>= fun _ => setStatus readyText none).run { e with session := none } = _
    rw [run_bind_ok (stopRecognizer_ok _)]
  · simp only [hc, Bool.not_false, if_true]
    rfl

theorem beginCapture_run (e : Engine) : beginCapture.run e = match e.recognizer with
    | none => .ok false e
    | some rec => if e.capturing then .ok false e else match rec.start with
      | .error msg => .ok false
        { e with
          session := none, lastResult := none,
          status := StatusLine.setAt e.clock ("Error: " ++ msg) (some e.settings.errorSeconds) }
      | .ok rec' => .ok true
        { e with
          recognizer := some rec', session := some Session.empty, lastResult := none,
          status := StatusLine.setAt e.clock listeningText none } := by
  rw [beginCapture, run_get_bind]
  rcases e.recognizer with _ | rec
  · rfl
  · by_cases hc : e.capturing = true
    · simp only [hc, if_true]; rfl
    · simp only [hc, Bool.false_eq_true, if_false]
      rcases rec.start with msg | rec' <;> rfl

theorem session_eq_none {e : Engine} (h : e.capturing = false) : e.session = none := by
  simpa [capturing] using h

theorem endCapture_idle (e : Engine) : (after (endCapture.run e)).capturing = false := by
  rw [endCapture_run]
  by_cases hc : e.capturing = true
  · simp only [hc, if_true]
    by_cases hc' : (after (stopRecognizer.run e)).capturing = true
    · rw [if_pos hc', finishSession_idle]
    · simp only [hc', Bool.false_eq_true, if_false, after_ok]
  · rw [if_neg hc]
    exact Bool.eq_false_iff.mpr hc

theorem close_idle (e : Engine) : (after (close.run e)).capturing = false := by
  rw [close_run]
  by_cases hc : e.capturing = true
  · simp only [hc, if_true]
    have hi : ({ e with session := none } : Engine).capturing = false := rfl
    simp only [capturing, (framed_setStatus _ _).session_after, stopRecognizer_idle hi]
    rfl
  · rw [if_neg hc]
    exact Bool.eq_false_iff.mpr hc

end Engine

/-! ## Runs of calls -/

/-- One call made on the engine from outside: by the page, by the recognizer or by the clock. -/
inductive Op
  | begin
  | finish
  | heard (r : SpeechResult)
  | failed (code : String)
  | ended
  | close
  | process (t : Transcript)
  | simulate (t : Transcript)
  | advance (seconds : Float)
  | readStatus
  | toggleAudio

/-- What a call gives back. -/
inductive Answer
  | done
  | flag (b : Bool)
  | text (s : String)
  | commands (cs : List Command)
  | interpretation (r : Interpretation)
  | result (r : Option Interpretation)
  deriving DecidableEq

def Op.step : Op → Step Answer
  | .begin => .flag <$> Engine.beginCapture
  | .finish => .result <$> Engine.endCapture
  | .heard r => (fun _ => .done) <$> Engine.onResult r
  | .failed code => (fun _ => .done) <$> Engine.onError code
  | .ended => (fun _ => .done) <$> Engine.onEnd
  | .close => (fun _ => .done) <$> Engine.close
  | .process t => .interpretation <$> Engine.process t
  | .simulate t => .commands <$> Engine.simulate t
  | .advance seconds => (fun _ => .done) <$> Engine.advance seconds
  | .readStatus => .text <$> Engine.readStatus
  | .toggleAudio => .flag <$> Engine.toggleAudio

/-- The calls that work on the calculator, the clock and the status only, and leave capture
alone. -/
def Op.leavesCapture : Op → Bool
  | .failed _ | .process _ | .simulate _ | .advance _ | .toggleAudio => true
  | _ => false

theorem Op.framed_step : ∀ op : Op, op.leavesCapture = true → Engine.Framed op.step
  | .failed code, _ => fun ρ σ ℓ => Engine.Commutes.map _ (Engine.framed_onError code ρ σ ℓ)
  | .process t, _ => fun ρ σ ℓ => Engine.Commutes.map _ (Engine.framed_process t ρ σ ℓ)
  | .simulate t, _ => fun ρ σ ℓ => Engine.Commutes.map _ (Engine.framed_simulate t ρ σ ℓ)
  | .advance seconds, _ => fun ρ σ ℓ => Engine.Commutes.map _ (Engine.framed_advance seconds ρ σ ℓ)
  | .toggleAudio, _ => fun ρ σ ℓ => Engine.Commutes.map _ (Engine.framed_toggleAudio ρ σ ℓ)

/-- An empty history of the standard capacity. -/
def History.standard : History Entry := ⟨10, [], by decide, by decide⟩

/-- A page's engine: the standard settings, a fresh calculator with every control, a microphone
that starts and stops when asked and reports the end of the session itself when `endsOnStop`,
and no speaker. -/
def Engine.onMicrophone (endsOnStop : Bool) : Engine where
  settings := Settings.standard
  gate := ⟨Settings.standard.threshold⟩
  calculator := ⟨CalcState.fresh, allControls⟩
  history := History.standard
  recognizer := some (.microphone ⟨none, false, endsOnStop, 0, 0⟩)
  speaker := none
  audio := false
  clock := 0.0
  session := none
  lastResult := none
  status := ⟨readyText, none⟩
  spoken := []

/-- A page's engine is the engine made from the standard settings with its microphone. -/
theorem Engine.make_onMicrophone (endsOnStop : Bool) :
    Engine.make Settings.standard ⟨CalcState.fresh, allControls⟩
      (some (.microphone ⟨none, false, endsOnStop, 0, 0⟩)) none = .ok (Engine.onMicrophone endsOnStop) :=
  rfl

/-- Makes the calls one after another. A fault ends its own call only: the next call starts
from the engine the fault left. Each call gives its answer or fault and the engine after it. -/
def Op.trace : List Op → Engine → List (Except EngineFault Answer × Engine)
  | [], _ => []
  | op :: ops, e => (outcome (op.step.run e), after (op.step.run e)) ::
      trace ops (after (op.step.run e))

end VoiceCalc
