-- The service: the calls a web page makes on one engine with a browser tab as recognizer and
-- speaker. Each call checks its request first; a call that finds no engine is refused as
-- unavailable, opening a session while one is open or touching a session that is not open is
-- refused as a conflict.
import VoiceCalc.Engine

namespace VoiceCalc

def serviceVersion : String := "1.0.0"

/-- Why a call failed: refused with a status and a detail, an invalid request, or a fault of the
engine. -/
inductive ServiceError
  | refused (status : Nat) (detail : String)
  | invalid (issues : List Issue)
  | fault (f : EngineFault)

/-- The service: the engine, until it is dropped. -/
structure Service where
  engine : Option Engine

/-- A call of the service. -/
abbrev Call := EStateM ServiceError Service

/-- What an interpretation gives back to the page: the interpretation, the status and the texts
to speak. -/
structure Reply where
  result : Interpretation
  status : String
  speak : List String

/-- The state of capture the page sees. -/
structure CaptureView where
  capturing : Bool
  status : String
  interim : String

/-- The health of the service. -/
structure Health where
  capturing : Bool
  threshold : Float
  audio : Bool

namespace Service

/-- The service with a fresh calculator, a browser tab as recognizer and speaker, and the
settings. -/
def build (s : Settings) : Except BuildError Service := do
  let e ← Engine.make s ⟨CalcState.fresh, allControls⟩ (some (.browser false)) (some .working)
  return ⟨some e⟩

/-- The request checked, or the call refused as invalid. -/
def checked (r : Except (List Issue) α) : Call α :=
  match r with
  | .ok a => pure a
  | .error is => throw (.invalid is)

/-- The engine, or the call refused as unavailable. -/
def current : Call Engine := do
  match (← get).engine with
  | some e => pure e
  | none => throw (.refused 503 "Engine not initialised")

/-- Runs an engine step on the service's engine. -/
def run (st : Step α) : Call α := do
  let e ← current
  match st.run e with
  | .ok a e' => set (⟨some e'⟩ : Service); pure a
  | .error f e' => set (⟨some e'⟩ : Service); throw (.fault f)

/-- The reply to an interpretation: the status read now and the texts spoken since the last reply. -/
def reply (r : Interpretation) : Call Reply := do
  let status ← run Engine.readStatus
  let speak ← run Engine.drainSpoken
  return ⟨r, status, speak⟩

def captureView : Call CaptureView := do
  let status ← run Engine.readStatus
  let e ← current
  return ⟨e.capturing, status, e.interim⟩

/-- Interprets a text of at most 500 characters with a confidence from 0 to 1, one by default. -/
def interpret (body : Datum) : Call Reply := do
  let t ← checked (Checks.finish do
    let text ← Checks.field body "text" none fun d => do
      let s ← d.toStr
      if s.length ≤ 500 then pure s else throw (.stringTooLong 500)
    let confidence ← Checks.field body "confidence" (some ⟨1.0, one_mem_unit⟩) toFractionIn
    return Transcript.heard text confidence)
  let r ← run (Engine.process t)
  reply r

/-- Opens a session; refused while one is open or when the recognizer will not start. -/
def captureBegin : Call CaptureView := do
  let e ← current
  if e.capturing then throw (.refused 409 "Capture session already open")
  if !(← run Engine.beginCapture) then
    let status ← run Engine.readStatus
    throw (.refused 503 ("Could not start capture (" ++ status ++ ")"))
  captureView

/-- A browser result of a request: a transcript, empty by default, an optional confidence from 0
to 1 and whether it is final, true by default. -/
def checkPayload (body : Datum) : Except (List Issue) Datum := Checks.finish do
  let transcript ← Checks.field body "transcript" (some "") Datum.toStr
  let confidence ← Checks.field body "confidence" (some none) optionalFraction
  let final ← Checks.field body "isFinal" (some true) Datum.toBool
  return .record [("transcript", .str transcript),
    ("confidence", (confidence.map fun c => Datum.float c.val).getD .null), ("isFinal", .bool final)]

/-- Hands a browser result to the open session; refused when the tab has no session open. -/
def captureResult (body : Datum) : Call CaptureView := do
  let payload ← checked (checkPayload body)
  let e ← current
  match e.recognizer with
  | some (.browser true) =>
    let r ← checked (SpeechResult.ofFields payload)
    run (Engine.onResult r)
    captureView
  | _ => throw (.refused 409 "No capture session open")

/-- Closes the session and interprets it; refused when no session is open. -/
def captureEnd : Call (Option Reply) := do
  let e ← current
  if !e.capturing then throw (.refused 409 "No capture session open")
  match ← run Engine.endCapture with
  | some r => some <$> reply r
  | none => pure none

def history : Call (List Entry) := do
  return (← current).entries

def state : Call CalcState := do
  return (← current).calculator.state

/-- Records odds from 0 to 100 the page computed, and gives the inputs. -/
def reportOdds (body : Datum) : Call CalcState := do
  let (p, t) ← checked (Checks.finish do
    let p ← Checks.field body "per_refresh" none fun d => d.toFloat >>= atMost 100 >>= atLeast 0
    let t ← Checks.field body "total" none fun d => d.toFloat >>= atMost 100 >>= atLeast 0
    return (p, t))
  let e ← current
  set (⟨some { e with calculator := e.calculator.reportOdds (some (.real p)) (some (.real t)) }⟩ : Service)
  state

/-- Flips audio feedback and gives the new setting. -/
def audioFeedback : Call Bool := run Engine.toggleAudio

def health : Call Health := do
  let e ← current
  return ⟨e.capturing, e.settings.threshold, e.audio⟩

/-- Drops the engine; every later call is refused as unavailable. -/
def drop : Call Unit := set (⟨none⟩ : Service)

end Service

end VoiceCalc
