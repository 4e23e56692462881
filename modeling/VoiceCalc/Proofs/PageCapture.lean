-- The page's calls on the service. Its browser tab listens exactly while the engine has a session
-- open: a service starts with neither, and every call of the page keeps the two in step, whether
-- it answers or fails. So opening a session is refused as a conflict exactly while one is open,
-- and never because the tab will not start; handing over a result and closing the session are
-- refused as a conflict exactly while none is open, also after a close whose interpretation failed.
import VoiceCalc.Service
import VoiceCalc.Proofs.EngineSteps

namespace VoiceCalc

/-! ## The tab in step with the engine -/

namespace Engine

/-- The browser tab listens exactly while a session is open. -/
def TabInStep (e : Engine) : Prop := e.recognizer = some (.browser e.capturing)

/-- A step that keeps the tab in step, whether it gives a value or fails. -/
def KeepsTab {α : Type} (st : Step α) : Prop := ∀ e, e.TabInStep → (after (st.run e)).TabInStep

theorem Framed.recognizer_after {α : Type} {s : Step α} (hs : Framed s) (e : Engine) :
    (after (s.run e)).recognizer = e.recognizer := by
  rw [← hs.after_eq e]; rfl

theorem keepsTab_of_framed {α : Type} {st : Step α} (hs : Framed st) : KeepsTab st := by
  intro e h
  unfold TabInStep capturing at *
  rw [hs.recognizer_after, hs.session_after]
  exact h

theorem keepsTab_readStatus : KeepsTab readStatus := by
  intro e h
  rw [readStatus_run]
  exact h

theorem keepsTab_drainSpoken : KeepsTab drainSpoken := fun _ h => h

/-- A result joins the open session, if any, so a session stays open exactly when it was. -/
theorem keepsTab_onResult (r : SpeechResult) : KeepsTab (onResult r) := by
  intro e h
  unfold TabInStep capturing at *
  show e.recognizer = some (.browser (e.session.map (·.add r)).isSome)
  rw [Option.isSome_map]
  exact h

/-- Opening a session starts a tab that was not listening, so both begin together. -/
theorem keepsTab_beginCapture : KeepsTab beginCapture := by
  intro e h
  rw [beginCapture_run, h]
  dsimp only
  by_cases hc : e.capturing = true
  · rw [if_pos hc]
    exact h
  · have hc' : e.capturing = false := Bool.eq_false_iff.mpr hc
    rw [if_neg hc, hc']
    rfl

/-- Stopping a listening tab reports no end of the session, so the session is still open after
the stop and is closed next: both end together, whether its interpretation fails or not. -/
theorem keepsTab_endCapture : KeepsTab endCapture := by
  intro e h
  rw [endCapture_run]
  by_cases hc : e.capturing = true
  · have hstop : after (stopRecognizer.run e) = { e with recognizer := some (.browser false) } := by
      rw [stopRecognizer_run, h]; rfl
    have hopen : (after (stopRecognizer.run e)).capturing = true := by rw [hstop]; exact hc
    rw [if_pos hc, if_pos hopen]
    unfold TabInStep
    rw [finishSession_idle, finishSession_recognizer, hstop]
  · rw [if_neg hc]
    exact h

end Engine

/-! ## Calls that keep the tab in step -/

namespace Service

variable {α β : Type}

/-- The service has its engine, whose tab listens exactly while a session is open. -/
def TabInStep (sv : Service) : Prop := ∃ e, sv.engine = some e ∧ e.TabInStep

def capturing (sv : Service) : Bool := (sv.engine.map Engine.capturing).getD false

/-- The call is refused as a conflict. -/
def Conflict (c : Call α) (sv : Service) : Prop :=
  ∃ detail sv', c.run sv = .error (.refused 409 detail) sv'

/-- A call that keeps the tab in step, whether it answers or fails. -/
def KeepsTab (c : Call α) : Prop := ∀ e, e.TabInStep → (after (c.run ⟨some e⟩)).TabInStep

theorem tabInStep_some {e : Engine} (h : e.TabInStep) : TabInStep ⟨some e⟩ := ⟨e, rfl, h⟩

theorem run_current_bind (k : Engine → Call α) (e : Engine) :
    (current >>= k).run ⟨some e⟩ = (k e).run ⟨some e⟩ := rfl

/-- An engine step on the service's engine gives its value, or fails with its fault, and leaves
the engine the step left. -/
theorem run_run (st : Step α) (e : Engine) : (run st).run ⟨some e⟩ = match st.run e with
    | .ok a e' => .ok a ⟨some e'⟩
    | .error f e' => .error (ServiceError.fault f) ⟨some e'⟩ := by
  show (match st.run e with
    | .ok a e' => (set (⟨some e'⟩ : Service) >>= fun _ => pure a : Call α)
    | .error f e' => set (⟨some e'⟩ : Service) >>= fun _ => throw (ServiceError.fault f)).run
      ⟨some e⟩ = _
  cases st.run e <;> rfl

theorem after_run_run (st : Step α) (e : Engine) :
    after ((run st).run ⟨some e⟩) = ⟨some (after (st.run e))⟩ := by
  rw [run_run]
  cases st.run e <;> rfl

theorem KeepsTab.pure (a : α) : KeepsTab (pure a : Call α) := fun _ h => tabInStep_some h

theorem KeepsTab.throw (x : ServiceError) : KeepsTab (throw x : Call α) :=
  fun _ h => tabInStep_some h

theorem KeepsTab.bind {s : Call α} {k : α → Call β} (hs : KeepsTab s) (hk : ∀ a, KeepsTab (k a)) :
    KeepsTab (s >>= k) := by
  intro e h
  cases hr : s.run ⟨some e⟩ with
  | ok a sv =>
    obtain ⟨e', he', h'⟩ : sv.TabInStep := by simpa only [hr, after_ok] using hs e h
    obtain ⟨⟩ := sv
    subst he'
    rw [run_bind_ok hr]
    exact hk a e' h'
  | error x sv =>
    rw [run_bind_error hr]
    simpa only [hr, after_error] using hs e h

theorem KeepsTab.map (f : α → β) {c : Call α} (hc : KeepsTab c) : KeepsTab (f <$> c) := by
  intro e h
  rw [after_run_map]
  exact hc e h

theorem KeepsTab.checked (r : Except (List Issue) α) : KeepsTab (checked r) := by
  cases r with
  | ok a => exact KeepsTab.pure a
  | error is => exact KeepsTab.throw _

/-- A call that reads the engine keeps the tab in step when what it does next does so on that
engine. -/
theorem KeepsTab.current_bind {k : Engine → Call α}
    (hk : ∀ e, e.TabInStep → (after ((k e).run ⟨some e⟩)).TabInStep) :
    KeepsTab (current >>= k) := by
  intro e h
  rw [run_current_bind]
  exact hk e h

theorem KeepsTab.run {st : Step α} (hs : Engine.KeepsTab st) : KeepsTab (run st) := by
  intro e h
  rw [after_run_run]
  exact tabInStep_some (hs e h)

theorem keepsTab_current : KeepsTab current := fun _ h => tabInStep_some h

theorem keepsTab_reply (r : Interpretation) : KeepsTab (reply r) :=
  KeepsTab.bind (KeepsTab.run Engine.keepsTab_readStatus) fun _ =>
    KeepsTab.bind (KeepsTab.run Engine.keepsTab_drainSpoken) fun _ => KeepsTab.pure _

theorem keepsTab_captureView : KeepsTab captureView :=
  KeepsTab.bind (KeepsTab.run Engine.keepsTab_readStatus) fun _ =>
    KeepsTab.bind keepsTab_current fun _ => KeepsTab.pure _

theorem keepsTab_interpret (body : Datum) : KeepsTab (interpret body) :=
  KeepsTab.bind (KeepsTab.checked _) fun t =>
    KeepsTab.bind (KeepsTab.run (Engine.keepsTab_of_framed (Engine.framed_process t)))
      keepsTab_reply

theorem keepsTab_captureBegin : KeepsTab captureBegin := by
  refine KeepsTab.current_bind fun e h => ?_
  by_cases hc : e.capturing = true
  · simp only [hc, if_true]
    exact KeepsTab.throw _ e h
  · simp only [hc, Bool.false_eq_true, if_false]
    refine KeepsTab.bind (KeepsTab.run Engine.keepsTab_beginCapture) (fun b => ?_) e h
    cases b
    · exact KeepsTab.bind (KeepsTab.run Engine.keepsTab_readStatus) fun _ => KeepsTab.throw _
    · exact keepsTab_captureView

theorem keepsTab_captureResult (body : Datum) : KeepsTab (captureResult body) := by
  refine KeepsTab.bind (KeepsTab.checked _) fun payload => KeepsTab.current_bind fun e h => ?_
  split
  · exact KeepsTab.bind (KeepsTab.checked _) (fun r =>
      KeepsTab.bind (KeepsTab.run (Engine.keepsTab_onResult r)) fun _ => keepsTab_captureView) e h
  · exact KeepsTab.throw _ e h

theorem keepsTab_captureEnd : KeepsTab captureEnd := by
  refine KeepsTab.current_bind fun e h => ?_
  by_cases hc : e.capturing = true
  · simp only [hc, Bool.not_true, Bool.false_eq_true, if_false]
    refine KeepsTab.bind (KeepsTab.run Engine.keepsTab_endCapture) (fun o => ?_) e h
    cases o with
    | some r => exact KeepsTab.map _ (keepsTab_reply r)
    | none => exact KeepsTab.pure _
  · simp only [hc, Bool.not_false, if_true]
    exact KeepsTab.throw _ e h

theorem keepsTab_history : KeepsTab history :=
  KeepsTab.bind keepsTab_current fun _ => KeepsTab.pure _

theorem keepsTab_state : KeepsTab state :=
  KeepsTab.bind keepsTab_current fun _ => KeepsTab.pure _

theorem keepsTab_reportOdds (body : Datum) : KeepsTab (reportOdds body) := by
  refine KeepsTab.bind (KeepsTab.checked _) fun (p, t) => KeepsTab.current_bind fun e h => ?_
  exact keepsTab_state
    { e with calculator := e.calculator.reportOdds (some (.real p)) (some (.real t)) } h

theorem keepsTab_audioFeedback : KeepsTab audioFeedback :=
  KeepsTab.run (Engine.keepsTab_of_framed Engine.framed_toggleAudio)

theorem keepsTab_health : KeepsTab health :=
  KeepsTab.bind keepsTab_current fun _ => KeepsTab.pure _

/-- A built service has its engine, with the tab not listening and no session open. -/
theorem build_tabInStep {s : Settings} {sv : Service} (h : build s = .ok sv) : sv.TabInStep := by
  unfold build at h
  obtain ⟨e, he, h⟩ := except_bind_eq_ok.1 h
  obtain ⟨gate, history, rfl⟩ := Engine.make_eq_ok he
  cases h
  exact ⟨_, rfl, rfl⟩

/-! ## Conflicts -/

/-- The capture state the page sees, read from the engine with the status read now. -/
theorem captureView_run (e : Engine) : captureView.run ⟨some e⟩ =
    .ok ⟨e.capturing, (e.status.readAt e.clock e.idleText).text, e.interim⟩
      ⟨some { e with status := e.status.readAt e.clock e.idleText }⟩ := rfl

theorem reply_ok (r : Interpretation) (e : Engine) :
    ∃ a e', (reply r).run ⟨some e⟩ = .ok a ⟨some e'⟩ :=
  ⟨_, _, rfl⟩

/-- With a session open, opening another is refused as a conflict and changes nothing. -/
theorem captureBegin_run_of_capturing {e : Engine} (hc : e.capturing = true) :
    captureBegin.run ⟨some e⟩ = .error (.refused 409 "Capture session already open") ⟨some e⟩ := by
  rw [captureBegin, run_current_bind]
  simp only [hc, if_true]
  rfl

theorem captureBegin_run_of_idle {e : Engine} (h : e.TabInStep) (hc : e.capturing = false) :
    ∃ v e', captureBegin.run ⟨some e⟩ = .ok v ⟨some e'⟩ ∧ v.capturing = true ∧
      e'.capturing = true := by
  have hb : (run Engine.beginCapture).run ⟨some e⟩ = .ok true ⟨some { e with
      recognizer := some (.browser true), session := some Session.empty, lastResult := none,
      status := StatusLine.setAt e.clock listeningText none }⟩ := by
    rw [run_run, Engine.beginCapture_run, h, hc]
    rfl
  refine ⟨?v, ?e', ?opens, ?_, ?_⟩
  case opens =>
    rw [captureBegin, run_current_bind]
    simp only [hc, Bool.false_eq_true, if_false]
    rw [run_bind_ok hb]
    exact captureView_run _
  all_goals rfl

/-- Handing over a result is refused as a conflict exactly when the request is a valid result
and no session is open. -/
theorem conflict_captureResult_iff {e : Engine} (h : e.TabInStep) (body : Datum) :
    Conflict (captureResult body) ⟨some e⟩ ↔
      (checkPayload body).isOk = true ∧ e.capturing = false := by
  unfold Conflict
  cases hp : checkPayload body with
  | error is =>
    simp only [captureResult, hp, Except.isOk, Except.toBool, Bool.false_eq_true, false_and,
      iff_false, not_exists]
    intro d sv' hr
    cases hr
  | ok payload =>
    simp only [Except.isOk, Except.toBool, true_and]
    have hchecked : (checked (checkPayload body)).run ⟨some e⟩ = .ok payload ⟨some e⟩ := by
      rw [hp]
      rfl
    rw [captureResult, run_bind_ok hchecked, run_current_bind, h]
    cases hc : e.capturing with
    | false => exact ⟨fun _ => rfl, fun _ => ⟨_, _, rfl⟩⟩
    | true =>
      simp only [Bool.true_eq_false, iff_false, not_exists]
      intro d sv' hr
      cases hs : SpeechResult.ofFields payload with
      | error is => rw [hs] at hr; cases hr
      | ok r => rw [hs] at hr; cases hr

/-- Closing the session is refused as a conflict exactly when none is open; with one open the call
answers, or fails with a fault of interpreting what was heard. -/
theorem conflict_captureEnd_iff {e : Engine} :
    Conflict captureEnd ⟨some e⟩ ↔ e.capturing = false := by
  unfold Conflict
  rw [captureEnd, run_current_bind]
  cases hc : e.capturing with
  | false => exact ⟨fun _ => rfl, fun _ => ⟨_, _, rfl⟩⟩
  | true =>
    simp only [Bool.not_true, Bool.false_eq_true, if_false, Bool.true_eq_false, iff_false,
      not_exists]
    intro d sv' hr
    cases hs : Engine.endCapture.run e with
    | ok o e' =>
      have hrun : (run Engine.endCapture).run ⟨some e⟩ = .ok o ⟨some e'⟩ := by rw [run_run, hs]
      rw [run_bind_ok hrun] at hr
      cases o with
      | some r =>
        obtain ⟨a, e'', hreply⟩ := reply_ok r e'
        rw [run_map, hreply] at hr
        cases hr
      | none => cases hr
    | error f e' =>
      have hrun : (run Engine.endCapture).run ⟨some e⟩ = .error (.fault f) ⟨some e'⟩ := by
        rw [run_run, hs]
      rw [run_bind_error hrun] at hr
      cases hr

end Service

/-! ## The page's calls -/

/-- A call of the page on the service: every call but dropping the engine. -/
inductive PageCall
  | interpret (body : Datum)
  | captureBegin
  | captureResult (body : Datum)
  | captureEnd
  | history
  | state
  | reportOdds (body : Datum)
  | audioFeedback
  | health

namespace PageCall

/-- The call on the service, its answer set aside. -/
def call : PageCall → Call Unit
  | .interpret body => (fun _ => ()) <$> Service.interpret body
  | .captureBegin => (fun _ => ()) <$> Service.captureBegin
  | .captureResult body => (fun _ => ()) <$> Service.captureResult body
  | .captureEnd => (fun _ => ()) <$> Service.captureEnd
  | .history => (fun _ => ()) <$> Service.history
  | .state => (fun _ => ()) <$> Service.state
  | .reportOdds body => (fun _ => ()) <$> Service.reportOdds body
  | .audioFeedback => (fun _ => ()) <$> Service.audioFeedback
  | .health => (fun _ => ()) <$> Service.health

/-- The service after the calls, each made on the service the one before left, whether it
answered or failed. -/
def runAll : List PageCall → Service → Service
  | [], sv => sv
  | c :: cs, sv => runAll cs (after (c.call.run sv))

theorem keepsTab_call : ∀ c : PageCall, Service.KeepsTab c.call
  | .interpret body => Service.KeepsTab.map _ (Service.keepsTab_interpret body)
  | .captureBegin => Service.KeepsTab.map _ Service.keepsTab_captureBegin
  | .captureResult body => Service.KeepsTab.map _ (Service.keepsTab_captureResult body)
  | .captureEnd => Service.KeepsTab.map _ Service.keepsTab_captureEnd
  | .history => Service.KeepsTab.map _ Service.keepsTab_history
  | .state => Service.KeepsTab.map _ Service.keepsTab_state
  | .reportOdds body => Service.KeepsTab.map _ (Service.keepsTab_reportOdds body)
  | .audioFeedback => Service.KeepsTab.map _ Service.keepsTab_audioFeedback
  | .health => Service.KeepsTab.map _ Service.keepsTab_health

theorem runAll_tabInStep : ∀ (cs : List PageCall) {sv : Service}, sv.TabInStep →
    (runAll cs sv).TabInStep
  | [], _, h => h
  | c :: cs, ⟨_⟩, ⟨e, he, h⟩ => by
    cases he
    exact runAll_tabInStep cs (keepsTab_call c e h)

end PageCall

/-- The service a page starts with under the standard settings: a fresh calculator, the browser
tab not listening and no session open. -/
def Service.onPage : Service where
  engine := some
    { settings := Settings.standard, gate := ⟨Settings.standard.threshold⟩,
      calculator := ⟨CalcState.fresh, allControls⟩, history := History.standard,
      recognizer := some (.browser false), speaker := some .working, audio := false, clock := 0.0,
      session := none, lastResult := none, status := ⟨readyText, none⟩, spoken := [] }

/-- Along any calls of the page on a built service, the browser tab listens exactly while the
engine has a session open. So opening a session is refused as a conflict, changing nothing,
exactly while one is open, and otherwise opens one, never refused because the tab will not start;
handing over a valid result and closing the session are refused as a conflict exactly while none
is open, also after a close whose interpretation failed. -/
theorem page_capture_calls_follow_the_session {s : Settings} {sv : Service}
    (hb : Service.build s = .ok sv) (calls : List PageCall) :
    let sv' := PageCall.runAll calls sv
    (∃ e, sv'.engine = some e ∧ e.recognizer = some (.browser e.capturing)) ∧
      (sv'.capturing = true →
        Service.captureBegin.run sv' = .error (.refused 409 "Capture session already open") sv') ∧
      (sv'.capturing = false → ∃ v sv'', Service.captureBegin.run sv' = .ok v sv'' ∧
        v.capturing = true ∧ sv''.capturing = true) ∧
      (∀ d sv'', Service.captureBegin.run sv' ≠ .error (.refused 503 d) sv'') ∧
      (∀ body, Service.Conflict (Service.captureResult body) sv' ↔
        (Service.checkPayload body).isOk = true ∧ sv'.capturing = false) ∧
      (Service.Conflict Service.captureEnd sv' ↔ sv'.capturing = false) := by
  intro sv'
  obtain ⟨e, he, h⟩ := PageCall.runAll_tabInStep calls (Service.build_tabInStep hb)
  have hsv : sv' = ⟨some e⟩ := by rw [← he]
  have hcap : sv'.capturing = e.capturing := by rw [hsv]; rfl
  rw [hcap, hsv]
  have hbegin : ∀ d sv'', Service.captureBegin.run ⟨some e⟩ ≠ .error (.refused 503 d) sv'' := by
    intro d sv'' hr
    cases hc : e.capturing with
    | true => rw [Service.captureBegin_run_of_capturing hc] at hr; cases hr
    | false =>
      obtain ⟨v, e', hok, -⟩ := Service.captureBegin_run_of_idle h hc
      rw [hok] at hr
      cases hr
  refine ⟨⟨e, rfl, h⟩, Service.captureBegin_run_of_capturing, fun hc => ?_, hbegin,
    Service.conflict_captureResult_iff h, Service.conflict_captureEnd_iff⟩
  obtain ⟨v, e', hok, hv, he'⟩ := Service.captureBegin_run_of_idle h hc
  exact ⟨v, ⟨some e'⟩, hok, hv, he'⟩

/-- A page opens a session, hands over a result heard as "ſix" and closes the session, whose
interpretation fails: after that, too, the tab is in step and a close is refused. -/
theorem page_capture_after_an_unreadable_session :
    Service.build Settings.standard = .ok Service.onPage ∧
      let sv' := PageCall.runAll
        [.captureBegin, .captureResult (.record [("transcript", .str "ſix")]), .captureEnd]
        Service.onPage
      (∃ e, sv'.engine = some e ∧ e.recognizer = some (.browser e.capturing)) ∧
        (sv'.capturing = true →
          Service.captureBegin.run sv' = .error (.refused 409 "Capture session already open") sv') ∧
        (sv'.capturing = false → ∃ v sv'', Service.captureBegin.run sv' = .ok v sv'' ∧
          v.capturing = true ∧ sv''.capturing = true) ∧
        (∀ d sv'', Service.captureBegin.run sv' ≠ .error (.refused 503 d) sv'') ∧
        (∀ body, Service.Conflict (Service.captureResult body) sv' ↔
          (Service.checkPayload body).isOk = true ∧ sv'.capturing = false) ∧
        (Service.Conflict Service.captureEnd sv' ↔ sv'.capturing = false) := by
  have hb : Service.build Settings.standard = .ok Service.onPage := rfl
  exact ⟨hb, page_capture_calls_follow_the_session hb _⟩

end VoiceCalc
