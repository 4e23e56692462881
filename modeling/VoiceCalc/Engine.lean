-- The engine and what it holds. A recognizer is a browser tab, which only tracks whether a session
-- is open on its side, or a microphone on the host, which may refuse to start or to stop and may
-- report the end of the session itself when it is stopped; a speaker reads text aloud, or fails
-- to. A capture session keeps its final results in order and shows the latest interim text; its
-- transcript joins the final texts that are not blank and is only as sure as its least sure part.
-- The history keeps the latest entries, newest first, the oldest falling off once it is full. The
-- status line holds a text and, for texts that only last a while, the time it expires.
--
-- The engine opens and closes capture sessions through the recognizer, interprets each finished
-- transcript once, applies its commands to the calculator, keeps the history of executed
-- transcripts and a status line that expires on the clock, and reads the odds aloud after a
-- question when audio feedback is on. Faults leave the engine as far as it got, ready for the next
-- session.
import VoiceCalc.Speech
import VoiceCalc.Transcript
import VoiceCalc.Text.Blank
import VoiceCalc.Dispatch
import VoiceCalc.Settings

namespace VoiceCalc

def readyText : String := "Ready"

def listeningText : String := "Listening..."

/-- The text after a transcript below the threshold. -/
def lowConfidenceText : String := "Try again?"

def unknownText : String := "Unknown command"

/-- The idle text of an engine that cannot listen. -/
def unsupportedText : String := "Voice control unsupported"

/-- The status text and the time it expires, if it does. -/
structure StatusLine where
  text : String
  expires : Option Float
  deriving Inhabited

namespace StatusLine

/-- A line set at `clock` that lasts `duration`, or for good. -/
def setAt (clock : Float) (text : String) (duration : Option Float) : StatusLine :=
  ⟨text, duration.map (clock + ·)⟩

/-- The line as read at `clock`: once its time is reached it becomes the idle text for good. -/
def readAt (s : StatusLine) (clock : Float) (idle : String) : StatusLine :=
  match s.expires with
  | some t => if clock ≥ t then ⟨idle, none⟩ else s
  | none => s

end StatusLine

/-- A recognizer on the host, with the number of times it was started and stopped. -/
structure Microphone where
  startRefusal : Option String
  stopRefuses : Bool
  endsOnStop : Bool
  starts : Nat
  stops : Nat
  deriving Inhabited

/-- The recognizer of the engine. -/
inductive Recognizer
  | browser (listening : Bool)
  | microphone (m : Microphone)
  deriving Inhabited

/-- What stopping a recognizer did. -/
inductive StopReply
  | stopped
  | refused
  | reportsEnd
  deriving DecidableEq

namespace Recognizer

/-- Starts recognition, or refuses with a message. -/
def start : Recognizer → Except String Recognizer
  | .browser true => .error "Browser recognition session already open"
  | .browser false => .ok (.browser true)
  | .microphone m => match m.startRefusal with
    | some msg => .error msg
    | none => .ok (.microphone { m with starts := m.starts + 1 })

/-- Stops recognition: the recognizer after it and what it replied. -/
def stop : Recognizer → Recognizer × StopReply
  | .browser _ => (.browser false, .stopped)
  | .microphone m =>
    let m := { m with stops := m.stops + 1 }
    (.microphone m, if m.stopRefuses then .refused else if m.endsOnStop then .reportsEnd else .stopped)

def stopRefusal : String := "not started"

end Recognizer

/-- A speaker that reads text aloud, or one that fails each time. -/
inductive Speaker
  | working
  | failing
  deriving DecidableEq, Inhabited

/-- The latest entries, newest first: the capacity is at least one and the entries never more. -/
structure History (α : Type) where
  capacity : Nat
  entries : List α
  one_le_capacity : 1 ≤ capacity
  length_le : entries.length ≤ capacity

/-- The largest capacity a history may have. -/
def History.largest : Nat := Nat.pow 2 63 - 1

/-- Why a history cannot be made: a capacity below one, or beyond the largest size. -/
inductive CapacityError
  | belowOne (capacity : Int)
  | beyondLargest
  deriving DecidableEq, Repr

/-- The message for a capacity that cannot be used. -/
def CapacityError.message : CapacityError → String
  | .belowOne n => "History capacity must be at least 1, got " ++ toString n
  | .beyondLargest => "Python int too large to convert to C ssize_t"

namespace History

/-- An empty history of the capacity, which must be from one to the largest size. -/
def make (capacity : Int) : Except CapacityError (History α) :=
  if h : capacity < 1 then .error (.belowOne capacity)
  else if capacity > History.largest then .error .beyondLargest
  else .ok ⟨capacity.toNat, [], by omega, Nat.zero_le _⟩

/-- The history with the entry in front, the oldest entry dropped when it was full. -/
def push (h : History α) (x : α) : History α :=
  { h with entries := (x :: h.entries).take h.capacity, length_le := List.length_take_le _ _ }

def clear (h : History α) : History α := { h with entries := [], length_le := Nat.zero_le _ }

def size (h : History α) : Nat := h.entries.length

@[simp] theorem entries_push (h : History α) (x : α) :
    (h.push x).entries = (x :: h.entries).take h.capacity := rfl

@[simp] theorem entries_clear (h : History α) : h.clear.entries = [] := rfl

end History

open Text

/-- The results of one open session. -/
structure Session where
  finals : List SpeechResult
  interim : String
  deriving Inhabited

namespace Session

def empty : Session := ⟨[], ""⟩

def add (s : Session) (r : SpeechResult) : Session :=
  if r.final then ⟨s.finals ++ [r], ""⟩ else { s with interim := r.text }

/-- The confidence of a part: an absent or zero confidence counts as zero. -/
def partConfidence (r : SpeechResult) : Float :=
  match r.confidence with
  | some c => if c == 0.0 then 0.0 else c
  | none => 0.0

/-- The least of the confidences, the first of equal ones kept. -/
def least (first : Float) (rest : List Float) : Float :=
  rest.foldl (fun m c => if c < m then c else m) first

theorem partConfidence_bounds (r : SpeechResult) : 0.0 ≤ partConfidence r ∧ partConfidence r ≤ 1.0 := by
  unfold partConfidence
  split
  · next c hc =>
    split
    · decide
    · exact r.confidence_mem c hc
  · decide

/-- The least of the confidences is one of them. -/
theorem least_mem (first : Float) (rest : List Float) : least first rest ∈ first :: rest := by
  induction rest generalizing first with
  | nil => exact List.mem_singleton_self first
  | cons c cs ih =>
    unfold least at ih ⊢
    rw [List.foldl_cons]
    rcases List.mem_cons.1 (ih (if c < first then c else first)) with h | h
    · rw [h]
      split
      · exact List.mem_cons_of_mem _ List.mem_cons_self
      · exact List.mem_cons_self
    · exact List.mem_cons_of_mem _ (List.mem_cons_of_mem _ h)

/-- The least confidence of the parts lies from 0 to 1. -/
theorem least_bounds (r : SpeechResult) (rs : List SpeechResult) :
    0.0 ≤ least (partConfidence r) (rs.map partConfidence) ∧
      least (partConfidence r) (rs.map partConfidence) ≤ 1.0 := by
  rcases List.mem_cons.1 (least_mem (partConfidence r) (rs.map partConfidence)) with h | h
  · rw [h]
    exact partConfidence_bounds r
  · obtain ⟨x, -, hx⟩ := List.mem_map.1 h
    rw [← hx]
    exact partConfidence_bounds x

/-- The transcript of the session: its final texts that are not blank, trimmed and joined by
spaces, with the least of their confidences; none when every final text is blank. -/
def transcript (s : Session) : Option Transcript :=
  match s.finals.filter (fun r => !(trim r.text).isEmpty) with
  | [] => none
  | r :: rs =>
    some ⟨" ".intercalate ((r :: rs).map fun x => trim x.text),
      least (partConfidence r) (rs.map partConfidence), least_bounds r rs⟩

end Session

/-- One executed transcript as the history keeps it. -/
structure Entry where
  transcript : String
  confidence : Float
  commands : List Command

/-- Why an engine step failed: a sentence that could not be read, a command value that is no
whole number, or odds to read aloud that lie beyond the doubles. -/
inductive EngineFault
  | read (e : ReadError)
  | convert (e : ConversionError)
  | oddsTooLarge
  deriving DecidableEq

def EngineFault.message : EngineFault → String
  | .read e => e.message
  | .convert e => e.message
  | .oddsTooLarge => OddsError.tooLarge.message

/-- Everything one engine holds. -/
structure Engine where
  settings : Settings
  gate : Gate
  calculator : Calculator
  history : History Entry
  recognizer : Option Recognizer
  speaker : Option Speaker
  audio : Bool
  clock : Float
  session : Option Session
  lastResult : Option Interpretation
  status : StatusLine
  /-- The texts spoken and not yet collected, oldest first. -/
  spoken : List String

/-- Why an engine cannot be made: its threshold makes no gate, or its capacity no history. -/
inductive BuildError
  | threshold (e : BadThreshold)
  | capacity (e : CapacityError)

/-- The message of a settings fault found when an engine is made. -/
def BuildError.message : BuildError → String
  | .threshold e => e.message
  | .capacity e => e.message

/-- An engine step: it changes the engine and gives a value, or fails where it stands. -/
abbrev Step := EStateM EngineFault Engine

namespace Engine

/-- An engine with its settings, calculator and devices: its threshold must make a gate, and then
its capacity a history. Without a recognizer the status says that voice control is unsupported. -/
def make (s : Settings) (calculator : Calculator) (rec : Option Recognizer) (speaker : Option Speaker) :
    Except BuildError Engine := do
  let gate ← (Gate.make s.threshold).mapError .threshold
  let history ← (History.make s.capacity).mapError .capacity
  return { settings := s, gate, calculator, history, recognizer := rec, speaker,
           audio := s.audio, clock := 0.0, session := none, lastResult := none,
           status := ⟨if rec.isSome then readyText else unsupportedText, none⟩, spoken := [] }

def supported (e : Engine) : Bool := e.recognizer.isSome

def capturing (e : Engine) : Bool := e.session.isSome

def interim (e : Engine) : String := (e.session.map (·.interim)).getD ""

/-- The status when nothing is going on. -/
def idleText (e : Engine) : String := if e.supported then readyText else unsupportedText

def entries (e : Engine) : List Entry := e.history.entries

/-! ## The status line -/

/-- Sets the status for a while, or for good. -/
def setStatus (text : String) (duration : Option Float) : Step Unit :=
  modify fun e => { e with status := StatusLine.setAt e.clock text duration }

/-- Reads the status; an expired text gives way to the idle text. -/
def readStatus : Step String := do
  let e ← get
  let s := e.status.readAt e.clock e.idleText
  set { e with status := s }
  return s.text

def advance (seconds : Float) : Step Unit := modify fun e => { e with clock := e.clock + seconds }

/-- Flips audio feedback and gives the new setting. -/
def toggleAudio : Step Bool := do
  modify fun e => { e with audio := !e.audio }
  return (← get).audio

/-! ## Interpreting a transcript -/

def lift (r : Except EngineFault α) : Step α :=
  match r with
  | .ok a => pure a
  | .error f => throw f

/-- Reads the odds aloud when there is a speaker, the odds control exists and both odds are
reported. Without a speaker the odds are not looked at; a failing speaker says nothing; odds
beyond the doubles are a fault. -/
def speakOdds : Step Unit := do
  let e ← get
  match e.speaker with
  | none => pure ()
  | some sp =>
    match e.calculator.describeOdds with
    | .error (.missing _) => pure ()
    | .error .tooLarge => throw .oddsTooLarge
    | .ok none => pure ()
    | .ok (some text) =>
      match sp with
      | .working => set { e with spoken := e.spoken ++ [text] }
      | .failing => pure ()

/-- Interprets a transcript and applies its commands. Below the threshold and with no command only
the status changes; an executed transcript is applied, recorded in the history and shown, and
read aloud after a question when audio feedback is on. -/
def process (t : Transcript) : Step Interpretation := do
  let e ← get
  let r ← lift ((e.gate.interpret t).mapError .read)
  let linger := some e.settings.resetSeconds
  match r.outcome with
  | .lowConfidence => setStatus lowConfidenceText linger; return r
  | .unknownCommand => setStatus unknownText linger; return r
  | .executed =>
    let (calculator, failed) := e.calculator.dispatch r.commands
    modify fun e => { e with calculator }
    let failed ← lift (failed.mapError .convert)
    let r := { r with failed }
    modify fun e => { e with history := e.history.push ⟨t.text, t.confidence, r.commands⟩ }
    setStatus ("Executed: " ++ r.feedback) linger
    if (← get).audio && r.commands.any (·.kind == .query) then speakOdds
    return r

/-- Runs a text through the engine as if it had been said, and gives the commands executed. -/
def simulate (t : Transcript) : Step (List Command) := do
  return (← process t).commands

/-! ## Capture sessions -/

/-- Closes the open session and interprets its transcript, if it has one. With nothing heard the
listening status gives way to the idle one. -/
def finishSession : Step (Option Interpretation) := do
  let e ← get
  set { e with session := none }
  match e.session.bind Session.transcript with
  | none =>
    if e.status.text == listeningText then setStatus readyText none
    return none
  | some t =>
    let r ← process t
    modify fun e => { e with lastResult := some r }
    return some r

/-- The recognizer reports that the session ended. -/
def onEnd : Step Unit := do
  if (← get).capturing then discard finishSession

/-- Stops the recognizer; a refusal, and a fault of the session it reports ended, are let go. -/
def stopRecognizer : Step Unit := do
  let e ← get
  match e.recognizer with
  | none => pure ()
  | some rec =>
    let (rec', reply) := rec.stop
    set { e with recognizer := some rec' }
    if reply == .reportsEnd then tryCatch onEnd fun _ => pure ()

/-- Opens a session: refused without a recognizer or with a session open; a recognizer that will
not start shows its error for a while. -/
def beginCapture : Step Bool := do
  let e ← get
  match e.recognizer with
  | none => return false
  | some rec =>
    if e.capturing then return false
    set { e with session := some Session.empty, lastResult := none }
    match rec.start with
    | .error msg =>
      modify fun e => { e with session := none }
      setStatus ("Error: " ++ msg) (some e.settings.errorSeconds)
      return false
    | .ok rec' =>
      modify fun e => { e with recognizer := some rec' }
      setStatus listeningText none
      return true

/-- Closes the session and interprets what was heard; when the recognizer reported the end while
stopping, the result of that is given. -/
def endCapture : Step (Option Interpretation) := do
  if !(← get).capturing then return none
  stopRecognizer
  if (← get).capturing then finishSession else return (← get).lastResult

/-- Abandons the open session without interpreting it. -/
def close : Step Unit := do
  if !(← get).capturing then return
  modify fun e => { e with session := none }
  stopRecognizer
  setStatus readyText none

/-- A result heard while a session is open joins it; outside a session it is dropped. -/
def onResult (r : SpeechResult) : Step Unit :=
  modify fun e => { e with session := e.session.map (·.add r) }

/-- The recognizer reports an error, shown for a while. -/
def onError (code : String) : Step Unit := do
  setStatus ("Error: " ++ code) (some (← get).settings.errorSeconds)

def drainSpoken : Step (List String) := do
  let e ← get
  set { e with spoken := [] }
  return e.spoken

end Engine

end VoiceCalc
