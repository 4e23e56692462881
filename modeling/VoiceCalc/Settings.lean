-- Settings of the voice control: the confidence threshold, the capacity of the history, how long
-- an error and an outcome stay on the status line, the language of recognition and whether the
-- odds are read aloud. They come from a record or from environment variables, each checked.
import VoiceCalc.Datum
import VoiceCalc.Transcript

namespace VoiceCalc

/-- The settings of one engine. -/
structure Settings where
  threshold : Float
  capacity : Int
  errorSeconds : Float
  resetSeconds : Float
  language : String
  audio : Bool
  deriving Inhabited

/-- The settings when nothing is set. -/
def Settings.standard : Settings := ⟨Gate.standardThreshold, 10, 2.0, 3.0, "en-US", false⟩

/-- Settings from a record: a threshold from 0 to 1, a capacity of at least one, positive times,
a language and the audio switch; an absent field keeps its standard value. -/
def Settings.check (d : Datum) : Except (List Issue) Settings := Checks.finish do
  let s := Settings.standard
  let threshold ← Checks.field d "confidence_threshold" (some s.threshold)
    (fun x => x.toFloat >>= atMost 1 >>= atLeast 0)
  let capacity ← Checks.field d "history_capacity" (some s.capacity)
    (fun x => x.toInt >>= wholeAtLeast 1)
  let errorSeconds ← Checks.field d "error_status_seconds" (some s.errorSeconds)
    (fun x => x.toFloat >>= above 0)
  let resetSeconds ← Checks.field d "status_reset_seconds" (some s.resetSeconds)
    (fun x => x.toFloat >>= above 0)
  let language ← Checks.field d "language" (some s.language) Datum.toStr
  let audio ← Checks.field d "audio_feedback" (some s.audio) Datum.toBool
  return ⟨threshold, capacity, errorSeconds, resetSeconds, language, audio⟩

/-- The environment variables that set fields, and the fields they set. -/
def Settings.variables : List (String × String) :=
  [("VOICE_CONFIDENCE_THRESHOLD", "confidence_threshold"),
   ("VOICE_HISTORY_CAPACITY", "history_capacity"),
   ("VOICE_LANGUAGE", "language"),
   ("VOICE_AUDIO_FEEDBACK", "audio_feedback")]

/-- Settings that the environment got wrong: the messages of the faults and the values the
variables gave, by field. -/
structure SettingsError where
  messages : List String
  values : List (String × String)

/-- The message for settings the environment got wrong. -/
def SettingsError.message (e : SettingsError) : String :=
  "Invalid voice control settings: " ++ toString e.messages.length ++ " error(s)"

/-- The fields the environment sets, in the order of the variables; an empty variable is unset. -/
def Settings.valuesOf (env : String → Option String) : List (String × String) :=
  Settings.variables.filterMap fun (var, field) =>
    match env var with
    | some v => if v.isEmpty then none else some (field, v)
    | none => none

/-- Settings from environment variables. -/
def Settings.fromEnv (env : String → Option String) : Except SettingsError Settings :=
  let values := Settings.valuesOf env
  match Settings.check (.record (values.map fun (k, v) => (k, .str v))) with
  | .ok s => .ok s
  | .error is => .error ⟨is.map (·.refusal.message), values⟩

end VoiceCalc
