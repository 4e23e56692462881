-- Transcripts: a sentence as a recognizer delivers it, with its confidence from 0 to 1, and the
-- gate that lets through only the transcripts whose confidence reaches a threshold. A confidence
-- equal to the threshold passes. A transcript below the threshold is not read at all; otherwise
-- its number words become digits, it is split into tokens and the commands are read. A sentence
-- with no command is an unknown command; one with commands is executed.
import VoiceCalc.Datum
import VoiceCalc.Decimal.Notation
import VoiceCalc.Text.Quoted
import VoiceCalc.Parse

namespace VoiceCalc

open Decimal

/-- One finished sentence and how sure the recognizer was of it, from 0 to 1. -/
structure Transcript where
  text : String
  confidence : Float
  confidence_mem : 0.0 ≤ confidence ∧ confidence ≤ 1.0
  deriving DecidableEq

instance : Inhabited Transcript := ⟨⟨"", 0.0, zero_mem_unit⟩⟩

/-- A text heard with a confidence from 0 to 1. -/
def Transcript.heard (text : String) (confidence : Fraction) : Transcript :=
  ⟨text, confidence.val, confidence.property⟩

/-- A transcript from a request: a text and a confidence from 0 to 1. -/
def Transcript.check (d : Datum) : Except (List Issue) Transcript := Checks.finish do
  let text ← Checks.field d "text" none Datum.toStr
  let confidence ← Checks.field d "confidence" none toFractionIn
  return .heard text confidence

/-- The threshold a transcript's confidence must reach. -/
structure Gate where
  threshold : Float
  deriving Inhabited

/-- The threshold of a gate that is not set otherwise. -/
def Gate.standardThreshold : Float := 0.6

/-- A threshold outside 0 to 1, or no number at all. -/
structure BadThreshold where
  threshold : Float

def BadThreshold.message (e : BadThreshold) : String :=
  "Confidence threshold must be between 0 and 1, got " ++ showFloat e.threshold

/-- Why a threshold in a request is no number: a text that writes none, a value of another kind,
named by its kind, or a whole number beyond the range of doubles. -/
inductive ThresholdInputError
  | notNumeric (text : String)
  | wrongKind (kind : String)
  | tooLarge
  deriving DecidableEq, Repr

/-- The message for a threshold that is no number. -/
def ThresholdInputError.message : ThresholdInputError → String
  | .notNumeric t => "could not convert string to float: " ++ Text.quoted t
  | .wrongKind k => "float() argument must be a string or a real number, not " ++ Text.quoted k
  | .tooLarge => "int too large to convert to float"

/-- The threshold a request gives: a double, a whole number, a switch as 0 or 1, or a text that
writes a number when read leniently. -/
def Gate.thresholdOf : Datum → Except ThresholdInputError Float
  | .float x => .ok x
  | .int n => match ofInt? n with
    | some x => .ok x
    | none => .error .tooLarge
  | .bool b => .ok (if b then 1.0 else 0.0)
  | .str s => match readLenient? s with
    | some x => .ok x
    | none => .error (.notNumeric s)
  | d => .error (.wrongKind d.kindName)

/-- The gate of a threshold from 0 to 1. -/
def Gate.make (t : Float) : Except BadThreshold Gate :=
  if 0.0 ≤ t && t ≤ 1.0 then .ok ⟨t⟩ else .error ⟨t⟩

/-- The transcript's confidence is not below the threshold. -/
def Gate.accepts (g : Gate) (t : Transcript) : Bool := !(t.confidence < g.threshold)

/-- How one transcript was disposed of. -/
inductive Outcome
  | executed
  | lowConfidence
  | unknownCommand
  deriving DecidableEq, Repr

def Outcome.name : Outcome → String
  | .executed => "executed"
  | .lowConfidence => "low_confidence"
  | .unknownCommand => "unknown_command"

/-- What became of one transcript: its outcome, the commands read and those that found no
control. -/
structure Interpretation where
  outcome : Outcome
  transcript : Transcript
  commands : List Command
  failed : List Command
  deriving DecidableEq

/-- The texts of the commands, joined by commas. -/
def Interpretation.feedback (r : Interpretation) : String := feedbackOf r.commands

/-- The interpretation of a transcript at the gate: not read below the threshold, unknown with no
command, else executed with the commands read. -/
def Gate.interpret (g : Gate) (t : Transcript) : Except ReadError Interpretation :=
  if !g.accepts t then .ok ⟨.lowConfidence, t, [], []⟩
  else do
    let cs ← readSentence t.text
    if cs.isEmpty then return ⟨.unknownCommand, t, [], []⟩
    else return ⟨.executed, t, cs, []⟩

end VoiceCalc
