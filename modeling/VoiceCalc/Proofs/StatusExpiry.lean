-- The status line expires lazily: reading it once its time is reached writes the idle text back.
-- That agrees with a line that expires eagerly, looked at afresh at each read, as long as time
-- never runs back. Every other call keeps the clock, sets the line or leaves whatever line it
-- finds, and looks at the line only to ask whether it shows the listening text, a text that is
-- only ever set for good; so a line the lazy engine has let go shows, at every later time, what
-- the expired eager line shows.
import VoiceCalc.Proofs.ListeningStatus

namespace VoiceCalc

/-! ## Status lines -/

namespace StatusLine

/-- A line that shows the listening text lasts until another is set. -/
def Steady (L : StatusLine) : Prop := ∀ t, L.expires = some t → L.text ≠ listeningText

/-- Two lines that both show the listening text, or both another. -/
def SameListening (L M : StatusLine) : Prop := L.text = listeningText ↔ M.text = listeningText

theorem steady_setAt {clock : Float} {text : String} {d : Option Float}
    (h : ∀ x, d = some x → text ≠ listeningText) : (setAt clock text d).Steady := by
  intro t ht
  simp only [setAt, Option.map_eq_some_iff] at ht
  obtain ⟨x, hx, -⟩ := ht
  exact h x hx

theorem readAt_of_reached {s : StatusLine} {clock t : Float} {idle : String}
    (hx : s.expires = some t) (hle : t ≤ clock) : s.readAt clock idle = ⟨idle, none⟩ := by
  unfold readAt
  rw [hx]
  exact if_pos hle

theorem readAt_of_not_reached {s : StatusLine} {clock : Float} {idle : String}
    (h : ∀ t, s.expires = some t → ¬t ≤ clock) : s.readAt clock idle = s := by
  unfold readAt
  split
  · rename_i t ht
    exact if_neg (h t ht)
  · rfl

end StatusLine

namespace Engine

variable {α β : Type}

def withStatus (L : StatusLine) (e : Engine) : Engine := { e with status := L }

@[simp] theorem withStatus_status (L : StatusLine) (e : Engine) : (withStatus L e).status = L := rfl
@[simp] theorem withStatus_self (e : Engine) : withStatus e.status e = e := rfl
@[simp] theorem withStatus_recognizer (L : StatusLine) (e : Engine) :
    (withStatus L e).recognizer = e.recognizer := rfl
@[simp] theorem withStatus_capturing (L : StatusLine) (e : Engine) :
    (withStatus L e).capturing = e.capturing := rfl

/-- The status as it shows at the engine's clock: its line, or the idle text once the line's
time is reached. -/
def shownStatus (e : Engine) : String := (e.status.readAt e.clock e.idleText).text

/-- Looks at the status as it shows at the clock, and writes nothing back. -/
def peekStatus : Step String := do
  return (← get).shownStatus

/-! ## Steps that look at the status only for the listening text -/

/-- A step that keeps the clock and whether there is a recognizer, sets the listening text only
for good, and looks at the status line only to ask whether it shows the listening text: run on the
engine with another line of the same kind, it does the same and leaves the same engine, with that
line in place when it set none (`keep`). -/
structure StatusBlind (s : Step α) : Prop where
  clock : ∀ e, (after (s.run e)).clock = e.clock
  supported : ∀ e, (after (s.run e)).supported = e.supported
  steady : ∀ e, e.status.Steady → (after (s.run e)).status.Steady
  blind : ∀ e, ∃ keep : Bool, ∀ L, L.SameListening e.status →
    s.run (withStatus L e) = mapState (cond keep (withStatus L) id) (s.run e)

theorem status_of_keep {s : Step α} {e : Engine}
    (h : s.run (withStatus e.status e) = mapState (withStatus e.status) (s.run e)) :
    (after (s.run e)).status = e.status := by
  have h' := congrArg (fun r => (after r).status) h
  simp only [withStatus_self, after_mapState, withStatus_status] at h'
  exact h'

/-- What the first of two steps leaves and the second keeps holds after both. -/
theorem after_bind_of {s : Step α} {k : α → Step β} {e : Engine} (P : Engine → Prop)
    (hs : P (after (s.run e))) (hk : ∀ a e₁, P e₁ → P (after ((k a).run e₁))) :
    P (after ((s >>= k).run e)) := by
  cases h : s.run e with
  | ok a e₁ => rw [h, after_ok] at hs; rw [run_bind_ok h]; exact hk a e₁ hs
  | error x e₁ => rw [h, after_error] at hs; rw [run_bind_error h]; exact hs

namespace StatusBlind

theorem of_commutes {s : Step α} (h : ∀ L, Commutes (withStatus L) s)
    (hclock : ∀ e, (after (s.run e)).clock = e.clock)
    (hsup : ∀ e, (after (s.run e)).supported = e.supported) : StatusBlind s where
  clock := hclock
  supported := hsup
  steady e he := by rw [status_of_keep (h e.status e)]; exact he
  blind _ := ⟨true, fun L _ => h L _⟩

theorem bind {s : Step α} {k : α → Step β} (hs : StatusBlind s) (hk : ∀ a, StatusBlind (k a)) :
    StatusBlind (s >>= k) where
  clock e := after_bind_of (fun e' => e'.clock = e.clock) (hs.clock e) fun a e₁ h₁ =>
    ((hk a).clock e₁).trans h₁
  supported e := after_bind_of (fun e' => e'.supported = e.supported) (hs.supported e) fun a e₁ h₁ =>
    ((hk a).supported e₁).trans h₁
  steady e he := after_bind_of (fun e' => e'.status.Steady) (hs.steady e he) fun a e₁ h₁ =>
    (hk a).steady e₁ h₁
  blind e := by
    obtain ⟨keep₁, h₁⟩ := hs.blind e
    cases h : s.run e with
    | error x e₁ =>
      refine ⟨keep₁, fun L hL => ?_⟩
      have hs' : s.run (withStatus L e) = .error x (cond keep₁ (withStatus L) id e₁) := by
        rw [h₁ L hL, h]; rfl
      rw [run_bind_error hs', run_bind_error h]
      rfl
    | ok a e₁ =>
      obtain ⟨keep₂, h₂⟩ := (hk a).blind e₁
      cases keep₁ with
      | false =>
        refine ⟨false, fun L hL => ?_⟩
        have hs' : s.run (withStatus L e) = .ok a e₁ := by rw [h₁ L hL, h]; rfl
        rw [run_bind_ok hs', run_bind_ok h]
        cases (k a).run e₁ <;> rfl
      | true =>
        have hst : e₁.status = e.status := by
          have := status_of_keep (h₁ e.status Iff.rfl)
          rwa [h, after_ok] at this
        refine ⟨keep₂, fun L hL => ?_⟩
        have hs' : s.run (withStatus L e) = .ok a (withStatus L e₁) := by rw [h₁ L hL, h]; rfl
        rw [run_bind_ok hs', run_bind_ok h, h₂ L (hst ▸ hL)]

theorem map (f : α → β) {s : Step α} (hs : StatusBlind s) : StatusBlind (f <$> s) where
  clock e := by rw [after_run_map]; exact hs.clock e
  supported e := by rw [after_run_map]; exact hs.supported e
  steady e he := by rw [after_run_map]; exact hs.steady e he
  blind e := by
    obtain ⟨keep, h⟩ := hs.blind e
    exact ⟨keep, fun L hL => by rw [run_map, run_map, h L hL]; cases s.run e <;> rfl⟩

/-- A step that reads the engine first is blind when what it does next asks of the line only
whether it shows the listening text. -/
theorem get_bind {k : Engine → Step α} (hk : ∀ e L, L.SameListening e.status → k (withStatus L e) = k e)
    (hk' : ∀ e, StatusBlind (k e)) : StatusBlind (get >>= k) where
  clock e := (hk' e).clock e
  supported e := (hk' e).supported e
  steady e := (hk' e).steady e
  blind e := by
    obtain ⟨keep, h⟩ := (hk' e).blind e
    exact ⟨keep, fun L hL => by rw [run_get_bind, run_get_bind, hk e L hL, h L hL]⟩

/-- A step that reads the engine and writes back a copy changed by `f` away from the line. -/
theorem get_set_bind {f : Engine → Engine} {k : Engine → Step α}
    (hf : ∀ L e, f (withStatus L e) = withStatus L (f e)) (hclock : ∀ e, (f e).clock = e.clock)
    (hsup : ∀ e, (f e).supported = e.supported)
    (hk : ∀ e L, L.SameListening e.status → k (withStatus L e) = k e) (hk' : ∀ e, StatusBlind (k e)) :
    StatusBlind (get >>= fun e => set (f e) >>= fun _ => k e) := by
  have hfs : ∀ e, (f e).status = e.status := fun e => by
    have := congrArg Engine.status (hf e.status e)
    simpa using this
  refine ⟨fun e => ((hk' e).clock (f e)).trans (hclock e), fun e => ((hk' e).supported (f e)).trans (hsup e),
    fun e he => (hk' e).steady (f e) (by rw [hfs e]; exact he), fun e => ?_⟩
  obtain ⟨keep, h⟩ := (hk' e).blind (f e)
  refine ⟨keep, fun L hL => ?_⟩
  show (k (withStatus L e)).run (f (withStatus L e)) = mapState _ ((k e).run (f e))
  rw [hk e L hL, hf L e, h L (by rw [hfs e]; exact hL)]

end StatusBlind

theorem statusBlind_pure (a : α) : StatusBlind (pure a : Step α) :=
  .of_commutes (fun _ => Commutes.pure a) (fun _ => rfl) (fun _ => rfl)

theorem statusBlind_lift (r : Except EngineFault α) : StatusBlind (lift r) :=
  .of_commutes (fun _ => Commutes.lift r) (by cases r <;> intro _ <;> rfl) (by cases r <;> intro _ <;> rfl)

theorem statusBlind_modify {f : Engine → Engine} (hf : ∀ L e, f (withStatus L e) = withStatus L (f e))
    (hclock : ∀ e, (f e).clock = e.clock) (hsup : ∀ e, (f e).supported = e.supported) :
    StatusBlind (modify f) :=
  .of_commutes (fun L => Commutes.modify (hf L)) hclock hsup

/-- Setting the line, other than the listening text for a while, sets it whatever line was
there. -/
theorem statusBlind_setStatus {text : String} {d : Option Float}
    (h : ∀ x, d = some x → text ≠ listeningText) : StatusBlind (setStatus text d) where
  clock _ := rfl
  supported _ := rfl
  steady _ _ := StatusLine.steady_setAt h
  blind _ := ⟨false, fun _ _ => rfl⟩

/-! ## The engine's steps -/

theorem statusBlind_speakOdds : StatusBlind speakOdds := by
  refine .of_commutes (fun L e => ?_) (fun e => ?_) (fun e => ?_)
  · have hf : (withStatus L e).oddsFault = e.oddsFault := rfl
    have hs : (withStatus L e).oddsSpoken = e.oddsSpoken := rfl
    rw [speakOdds_run, speakOdds_run, hf, hs]
    cases e.oddsFault <;> rfl
  all_goals rw [speakOdds_run]; cases e.oddsFault <;> rfl

/-- Interpreting a transcript sets the line to its outcome, never the listening text. -/
theorem statusBlind_process (t : Transcript) : StatusBlind (process t) := by
  unfold process
  refine StatusBlind.get_bind (fun _ _ _ => rfl) fun e => StatusBlind.bind (statusBlind_lift _) fun r => ?_
  split
  · exact StatusBlind.bind (statusBlind_setStatus fun _ _ => by decide) fun _ => statusBlind_pure _
  · exact StatusBlind.bind (statusBlind_setStatus fun _ _ => by decide) fun _ => statusBlind_pure _
  · refine StatusBlind.bind (statusBlind_modify (fun _ _ => rfl) (fun _ => rfl) (fun _ => rfl)) fun _ =>
      StatusBlind.bind (statusBlind_lift _) fun failed => ?_
    refine StatusBlind.bind (statusBlind_modify (fun _ _ => rfl) (fun _ => rfl) (fun _ => rfl)) fun _ =>
      StatusBlind.bind (statusBlind_setStatus fun _ _ => prefixed_ne_listening (.inl rfl)) fun _ => ?_
    refine StatusBlind.get_bind (fun _ _ _ => rfl) fun e' => ?_
    split
    · exact StatusBlind.bind statusBlind_speakOdds fun _ => statusBlind_pure _
    · exact statusBlind_pure _

theorem statusBlind_simulate (t : Transcript) : StatusBlind (simulate t) :=
  StatusBlind.bind (statusBlind_process t) fun _ => statusBlind_pure _

/-- Closing a session looks at the line only to replace the listening text by the idle one. -/
theorem statusBlind_finishSession : StatusBlind finishSession := by
  unfold finishSession
  refine StatusBlind.get_set_bind (fun _ _ => rfl) (fun _ => rfl) (fun _ => rfl) (fun e L hL => ?_)
    fun e => ?_
  · have hb : (L.text == listeningText) = (e.status.text == listeningText) := by
      rw [Bool.eq_iff_iff, beq_iff_eq, beq_iff_eq]
      exact hL
    simp only [withStatus, hb]
  · split
    · split
      · exact StatusBlind.bind (statusBlind_setStatus fun _ h => by cases h) fun _ => statusBlind_pure _
      · exact statusBlind_pure _
    · exact StatusBlind.bind (statusBlind_process _) fun _ =>
        StatusBlind.bind (statusBlind_modify (fun _ _ => rfl) (fun _ => rfl) (fun _ => rfl)) fun _ =>
          statusBlind_pure _

theorem statusBlind_onEnd : StatusBlind onEnd :=
  StatusBlind.get_bind (fun _ _ _ => rfl) fun e => by
    by_cases h : e.capturing = true
    · simp only [h, if_true]; exact StatusBlind.map _ statusBlind_finishSession
    · simp only [h, Bool.false_eq_true, if_false]; exact statusBlind_pure _

/-- Stopping the recognizer keeps one, and closes the session only as the recognizer reports the
end of it. -/
theorem statusBlind_stopRecognizer : StatusBlind stopRecognizer := by
  have hend := statusBlind_onEnd
  have hnone : ∀ e, e.recognizer = none → stopRecognizer.run e = .ok () e := by
    intro e h; rw [stopRecognizer_run, h]
  have hsome : ∀ e rec, e.recognizer = some rec → stopRecognizer.run e = .ok ()
      (if rec.stop.2 = .reportsEnd then after (onEnd.run { e with recognizer := some rec.stop.1 })
        else { e with recognizer := some rec.stop.1 }) := by
    intro e rec h; rw [stopRecognizer_run, h]
  refine ⟨fun e => ?_, fun e => ?_, fun e he => ?_, fun e => ?_⟩ <;>
    rcases hr : e.recognizer with _ | rec
  · rw [hnone e hr]; rfl
  · rw [hsome e rec hr, after_ok]
    split
    · exact hend.clock _
    · rfl
  · rw [hnone e hr]; rfl
  · have hs : ({ e with recognizer := some rec.stop.1 } : Engine).supported = e.supported := by
      simp [supported, hr]
    rw [hsome e rec hr, after_ok]
    split
    · rw [hend.supported]; exact hs
    · exact hs
  · rw [hnone e hr]; exact he
  · rw [hsome e rec hr, after_ok]
    split
    · exact hend.steady _ he
    · exact he
  · exact ⟨true, fun L _ => by rw [hnone e hr, hnone (withStatus L e) hr]; rfl⟩
  · by_cases hreply : rec.stop.2 = .reportsEnd
    · obtain ⟨keep, h⟩ := hend.blind { e with recognizer := some rec.stop.1 }
      refine ⟨keep, fun L hL => ?_⟩
      rw [hsome e rec hr, hsome (withStatus L e) rec hr, if_pos hreply, if_pos hreply]
      have h' := congrArg after (h L hL)
      rw [after_mapState] at h'
      exact congrArg (EStateM.Result.ok ()) h'
    · refine ⟨true, fun L _ => ?_⟩
      rw [hsome e rec hr, hsome (withStatus L e) rec hr, if_neg hreply, if_neg hreply]
      rfl

theorem statusBlind_endCapture : StatusBlind endCapture := by
  unfold endCapture
  refine StatusBlind.get_bind (fun _ _ _ => rfl) fun e => ?_
  split
  · exact statusBlind_pure _
  · refine StatusBlind.bind statusBlind_stopRecognizer fun _ =>
      StatusBlind.get_bind (fun _ _ _ => rfl) fun e' => ?_
    split
    · exact statusBlind_finishSession
    · exact StatusBlind.get_bind (fun _ _ _ => rfl) fun _ => statusBlind_pure _

theorem statusBlind_close : StatusBlind close := by
  unfold close
  refine StatusBlind.get_bind (fun _ _ _ => rfl) fun e => ?_
  split
  · exact statusBlind_pure _
  · exact StatusBlind.bind (statusBlind_modify (fun _ _ => rfl) (fun _ => rfl) (fun _ => rfl)) fun _ =>
      StatusBlind.bind statusBlind_stopRecognizer fun _ => statusBlind_setStatus fun _ h => by cases h

/-- Opening a session sets the listening text for good, or an error for a while. -/
theorem statusBlind_beginCapture : StatusBlind beginCapture := by
  refine ⟨fun e => ?_, fun e => ?_, fun e he => ?_, fun e => ?_⟩ <;>
    rcases hr : e.recognizer with _ | rec
  · rw [beginCapture_run, hr]; rfl
  · rw [beginCapture_run, hr]
    dsimp only
    split
    · rfl
    · cases rec.start <;> rfl
  · rw [beginCapture_run, hr]; rfl
  · rw [beginCapture_run, hr]
    dsimp only
    split
    · rfl
    · cases rec.start <;> simp [after, supported, hr]
  · rw [beginCapture_run, hr]; exact he
  · rw [beginCapture_run, hr]
    dsimp only
    split
    · exact he
    · cases rec.start
      · exact StatusLine.steady_setAt fun _ _ => prefixed_ne_listening (.inr rfl)
      · exact StatusLine.steady_setAt fun _ h => by cases h
  · exact ⟨true, fun L _ => by rw [beginCapture_run, beginCapture_run, withStatus_recognizer, hr]; rfl⟩
  · by_cases hc : e.capturing = true
    · refine ⟨true, fun L _ => ?_⟩
      rw [beginCapture_run, beginCapture_run, withStatus_recognizer, withStatus_capturing, hr]
      dsimp only
      rw [if_pos hc, if_pos hc]
      rfl
    · refine ⟨false, fun L _ => ?_⟩
      rw [beginCapture_run, beginCapture_run, withStatus_recognizer, withStatus_capturing, hr]
      dsimp only
      rw [if_neg hc, if_neg hc]
      cases rec.start <;> rfl

theorem statusBlind_onResult (r : SpeechResult) : StatusBlind (onResult r) :=
  statusBlind_modify (fun _ _ => rfl) (fun _ => rfl) (fun _ => rfl)

theorem statusBlind_onError (code : String) : StatusBlind (onError code) :=
  StatusBlind.get_bind (fun _ _ _ => rfl) fun _ =>
    statusBlind_setStatus fun _ _ => prefixed_ne_listening (.inr rfl)

theorem statusBlind_toggleAudio : StatusBlind toggleAudio :=
  StatusBlind.bind (statusBlind_modify (fun _ _ => rfl) (fun _ => rfl) (fun _ => rfl)) fun _ =>
    StatusBlind.get_bind (fun _ _ _ => rfl) fun _ => statusBlind_pure _

theorem make_status_steady {s : Settings} {c : Calculator} {rec : Option Recognizer}
    {sp : Option Speaker} {e : Engine} (h : make s c rec sp = .ok e) : e.status.Steady := by
  obtain ⟨gate, history, rfl⟩ := make_eq_ok h
  intro t ht
  cases ht

/-! ## The lazy line against the eager one -/

/-- The line the lazy engine holds against the eager engine `e`: the eager line itself, or the
idle text once the eager line's time is reached, as a read has written it back. The eager line
shows the listening text only for good. -/
structure Lags (L : StatusLine) (e : Engine) : Prop where
  line : L = e.status ∨ L = ⟨e.idleText, none⟩ ∧ ∃ t, e.status.expires = some t ∧ t ≤ e.clock
  steady : e.status.Steady

/-- Run on the lazy engine and on the eager one, two steps give the same answer, and the lazy
engine after them lags the eager one. -/
def Tracks (s s' : Step α) (L : StatusLine) (e : Engine) : Prop :=
  outcome (s.run (withStatus L e)) = outcome (s'.run e) ∧
    ∃ L', after (s.run (withStatus L e)) = withStatus L' (after (s'.run e)) ∧
      Lags L' (after (s'.run e))

theorem Tracks.map (f : α → β) {s s' : Step α} {L : StatusLine} {e : Engine} (h : Tracks s s' L e) :
    Tracks (f <$> s) (f <$> s') L e := by
  unfold Tracks
  simp only [outcome_run_map, after_run_map]
  exact ⟨by rw [h.1], h.2⟩

namespace Lags

variable {L : StatusLine} {e : Engine}

/-- A lagging line shows the listening text exactly when the eager line does. -/
theorem sameListening (h : Lags L e) : L.SameListening e.status := by
  rcases h.line with rfl | ⟨rfl, t, ht, -⟩
  · exact Iff.rfl
  · exact ⟨fun hl => absurd hl (idleText_ne_listening e), fun hl => absurd hl (h.steady t ht)⟩

theorem shown (h : Lags L e) : (withStatus L e).shownStatus = e.shownStatus := by
  rcases h.line with rfl | ⟨rfl, t, ht, hle⟩
  · rfl
  · show e.idleText = (e.status.readAt e.clock e.idleText).text
    rw [StatusLine.readAt_of_reached ht hle]

theorem readAt (h : Lags L e) : Lags (L.readAt e.clock e.idleText) e := by
  refine ⟨?_, h.steady⟩
  rcases h.line with rfl | ⟨rfl, hx⟩
  · by_cases hr : ∃ t, e.status.expires = some t ∧ t ≤ e.clock
    · obtain ⟨t, ht, hle⟩ := hr
      exact .inr ⟨StatusLine.readAt_of_reached ht hle, t, ht, hle⟩
    · exact .inl (StatusLine.readAt_of_not_reached fun t ht hle => hr ⟨t, ht, hle⟩)
  · exact .inr ⟨rfl, hx⟩

/-- A step blind to the line keeps a lagging line lagging: a line it sets is the same on both
engines, and a line it keeps stays as it was on each. -/
theorem tracks_of_blind {s : Step α} (h : Lags L e) (hs : StatusBlind s) : Tracks s s L e := by
  obtain ⟨keep, hk⟩ := hs.blind e
  have hsteady := hs.steady e h.steady
  unfold Tracks
  rw [hk L h.sameListening, outcome_mapState, after_mapState]
  cases keep with
  | false => exact ⟨rfl, (after (s.run e)).status, rfl, .inl rfl, hsteady⟩
  | true =>
    have hst : (after (s.run e)).status = e.status := status_of_keep (hk e.status Iff.rfl)
    have hidle : (after (s.run e)).idleText = e.idleText := by
      unfold idleText
      rw [hs.supported e]
    refine ⟨rfl, L, rfl, ?_, hsteady⟩
    rw [hst, hidle, hs.clock e]
    exact h.line

theorem tracks_read (h : Lags L e) : Tracks readStatus peekStatus L e := by
  refine ⟨?_, L.readAt e.clock e.idleText, rfl, h.readAt⟩
  show Except.ok (withStatus L e).shownStatus = Except.ok e.shownStatus
  rw [h.shown]

/-- Time passing keeps a lagging line lagging, as long as it never runs back. -/
theorem tracks_advance {s : Float} (h : Lags L e) (hs : ∀ t : Float, t ≤ e.clock → t ≤ e.clock + s) :
    Tracks (advance s) (advance s) L e := by
  refine ⟨rfl, L, rfl, ?_, h.steady⟩
  rcases h.line with hL | ⟨hL, t, ht, hle⟩
  · exact .inl hL
  · exact .inr ⟨hL, t, ht, hs t hle⟩

end Lags

end Engine

/-! ## Runs of calls -/

/-- The calls that read the status or let time pass: the two whose effect on the line depends on
the time. -/
def Op.timed : Op → Bool
  | .advance _ | .readStatus => true
  | _ => false

theorem Op.statusBlind_step : ∀ op : Op, op.timed = false → Engine.StatusBlind op.step
  | .begin, _ => .map _ Engine.statusBlind_beginCapture
  | .finish, _ => .map _ Engine.statusBlind_endCapture
  | .heard r, _ => .map _ (Engine.statusBlind_onResult r)
  | .failed code, _ => .map _ (Engine.statusBlind_onError code)
  | .ended, _ => .map _ Engine.statusBlind_onEnd
  | .close, _ => .map _ Engine.statusBlind_close
  | .process t, _ => .map _ (Engine.statusBlind_process t)
  | .simulate t, _ => .map _ (Engine.statusBlind_simulate t)
  | .toggleAudio, _ => .map _ Engine.statusBlind_toggleAudio

namespace HostOp

/-- The step a call makes on an engine whose status expires eagerly: a read only looks at the
status as it shows, and every other call is the same. -/
def eagerStep : HostOp → Step Answer
  | .call .readStatus => .text <$> Engine.peekStatus
  | op => op.step

/-- Every call but a read and time passing is made the same way on both engines. -/
theorem eagerStep_call {op : Op} (h : op.timed = false) : (call op).eagerStep = op.step := by
  cases op <;> first | rfl | cases h

/-- Makes the calls one after another on an engine whose status expires eagerly. -/
def eagerTrace : List HostOp → Engine → List (Except EngineFault Answer × Engine)
  | [], _ => []
  | op :: ops, e =>
    (outcome (op.eagerStep.run e), after (op.eagerStep.run e)) :: eagerTrace ops (after (op.eagerStep.run e))

/-- Time never runs back at the call: letting time pass keeps every time already reached. -/
def KeepsTime : HostOp → Engine → Prop
  | .call (.advance s), e => ∀ t : Float, t ≤ e.clock → t ≤ e.clock + s
  | _, _ => True

end HostOp

namespace Engine.Lags

variable {L : StatusLine} {e : Engine}

/-- One call keeps a lagging line lagging, and gives the answer the eager engine gives. -/
theorem tracks_step (h : Lags L e) (op : HostOp) (ht : op.KeepsTime (withStatus L e)) :
    Tracks op.step op.eagerStep L e := by
  cases op with
  | reportOdds p t =>
    exact h.tracks_of_blind
      (StatusBlind.map _ (statusBlind_modify (fun _ _ => rfl) (fun _ => rfl) (fun _ => rfl)))
  | call op =>
    cases hop : op.timed with
    | false =>
      rw [HostOp.eagerStep_call hop]
      exact h.tracks_of_blind (Op.statusBlind_step op hop)
    | true =>
      cases op with
      | readStatus => exact h.tracks_read.map _
      | advance s => exact (h.tracks_advance ht).map _
      | _ => cases hop

/-- Along a run in which time never runs back, the lazy engine, started from a line lagging the
eager engine, gives the eager engine's answer at each call, and its line goes on lagging. -/
theorem tracks_trace : ∀ {ops : List HostOp} {L : StatusLine} {e : Engine}, Lags L e →
    HostOp.Along HostOp.KeepsTime ops (withStatus L e) →
    List.Forall₂ (fun x y => x.1 = y.1 ∧ ∃ L', x.2 = withStatus L' y.2 ∧ Lags L' y.2)
      (HostOp.trace ops (withStatus L e)) (HostOp.eagerTrace ops e)
  | [], _, _, _, _ => .nil
  | op :: _, _, _, h, ⟨ht, hrest⟩ => by
    obtain ⟨hout, L', hafter, hL'⟩ := h.tracks_step op ht
    rw [HostOp.trace, HostOp.eagerTrace]
    rw [hafter] at hrest ⊢
    exact .cons ⟨hout, L', rfl, hL'⟩ (tracks_trace hL' hrest)

end Engine.Lags

/-- On every run of calls from a new engine in which time never runs back, the status that expires
when it is read agrees with one that expires eagerly: call by call the answers are the same, so
each read gives the text last set while its time is not reached and the idle text after; the two
engines differ in the status line only, and show the same status after every call. -/
theorem status_expires_as_if_read_eagerly {s : Settings} {c : Calculator} {rec : Option Recognizer}
    {sp : Option Speaker} {e : Engine} (hm : Engine.make s c rec sp = .ok e) (ops : List HostOp)
    (ht : HostOp.Along HostOp.KeepsTime ops e) :
    List.Forall₂ (fun x y => x.1 = y.1 ∧ x.2 = Engine.withStatus x.2.status y.2 ∧
        x.2.shownStatus = y.2.shownStatus)
      (HostOp.trace ops e) (HostOp.eagerTrace ops e) := by
  have h := Engine.Lags.tracks_trace (L := e.status) ⟨.inl rfl, Engine.make_status_steady hm⟩ ht
  rw [Engine.withStatus_self] at h
  exact h.imp fun x y ⟨hx, L', hL, hlag⟩ =>
    ⟨hx, by rw [hL, Engine.withStatus_status], by rw [hL]; exact hlag.shown⟩

theorem status_of_an_error_and_a_session_read_eagerly :
    Engine.make Settings.standard ⟨CalcState.fresh, allControls⟩
        (some (.microphone ⟨none, false, false, 0, 0⟩)) none = .ok (Engine.onMicrophone false) ∧
    HostOp.Along HostOp.KeepsTime
      [.call (.failed "network"), .call .readStatus, .call .begin, .call .readStatus]
      (Engine.onMicrophone false) ∧
    List.Forall₂ (fun x y => x.1 = y.1 ∧ x.2 = Engine.withStatus x.2.status y.2 ∧
        x.2.shownStatus = y.2.shownStatus)
      (HostOp.trace [.call (.failed "network"), .call .readStatus, .call .begin, .call .readStatus]
        (Engine.onMicrophone false))
      (HostOp.eagerTrace [.call (.failed "network"), .call .readStatus, .call .begin, .call .readStatus]
        (Engine.onMicrophone false)) := by
  have ht : HostOp.Along HostOp.KeepsTime
      [.call (.failed "network"), .call .readStatus, .call .begin, .call .readStatus]
      (Engine.onMicrophone false) := ⟨trivial, trivial, trivial, trivial, trivial⟩
  exact ⟨Engine.make_onMicrophone false, ht,
    status_expires_as_if_read_eagerly (Engine.make_onMicrophone false) _ ht⟩

end VoiceCalc
