-- Speech results: what a recognizer hears, final or interim, with a confidence from 0 to 1 that
-- an interim result does not carry. A browser reports a result as a record; its fields are read
-- the way the browser sends them, loosely.
import VoiceCalc.Datum
import VoiceCalc.Decimal.Notation
import VoiceCalc.Text.Blank
import VoiceCalc.Text.Quoted

namespace VoiceCalc

open Decimal Text

/-- One result of recognition, with a confidence from 0 to 1 if it has one. -/
structure SpeechResult where
  text : String
  final : Bool
  confidence : Option Float
  confidence_mem : ∀ c ∈ confidence, 0.0 ≤ c ∧ c ≤ 1.0

instance : Inhabited SpeechResult := ⟨⟨"", true, none, nofun⟩⟩

/-- A confidence that may be absent: nothing, or a number from 0 to 1. -/
def optionalFraction : Datum → Except Refusal (Option Fraction)
  | .null => .ok none
  | d => some <$> toFractionIn d

/-- The confidence of a fraction that may be absent lies from 0 to 1. -/
theorem mem_map_val_bounds {o : Option Fraction} : ∀ c ∈ o.map Subtype.val, 0.0 ≤ c ∧ c ≤ 1.0 := by
  cases o with
  | none => nofun
  | some f => rintro c ⟨⟩; exact f.property

/-- A result from a request: a text, whether it is final (it is unless said otherwise) and an
optional confidence. -/
def SpeechResult.check (d : Datum) : Except (List Issue) SpeechResult := Checks.finish do
  let text ← Checks.field d "text" none Datum.toStr
  let final ← Checks.field d "is_final" (some true) Datum.toBool
  let confidence ← Checks.field d "confidence" (some none) optionalFraction
  return ⟨text, final, confidence.map Subtype.val, mem_map_val_bounds⟩

namespace Datum

/-- Whether a datum counts as true: nothing, false, zero, the empty text and empty collections do
not. -/
def truthy : Datum → Bool
  | .null => false
  | .bool b => b
  | .int n => n != 0
  | .float x => x != 0.0
  | .str s => !s.isEmpty
  | .list xs => !xs.isEmpty
  | .record fs => !fs.isEmpty

mutual
/-- The text of a datum as a message shows it; texts inside a list or record are quoted. -/
def display : Datum → String
  | .null => "None"
  | .bool b => if b then "True" else "False"
  | .int n => toString n
  | .float x => if x.isNaN then "nan" else showFloat x
  | .str s => s
  | .list xs => "[" ++ ", ".intercalate (displayAll xs) ++ "]"
  | .record fs => "\x7b" ++ ", ".intercalate (displayFields fs) ++ "\x7d"

/-- The texts of the items of a list, texts quoted. -/
def displayAll : List Datum → List String
  | [] => []
  | x :: xs => displayInner x :: displayAll xs

/-- The texts of the fields of a record, names and texts quoted. -/
def displayFields : List (String × Datum) → List String
  | [] => []
  | (k, v) :: fs => (quoted k ++ ": " ++ displayInner v) :: displayFields fs

/-- The text of a datum inside a list or record: a text is quoted. -/
def displayInner : Datum → String
  | .str s => quoted s
  | d => display d
end

end Datum

/-- Why a browser report gives no result: it is no record, and its kind is named, or its fields
are invalid. -/
inductive PayloadError
  | notRecord (kind : String)
  | invalid (issues : List Issue)

/-- The message for a report that is no record. -/
def PayloadError.notRecordMessage (kind : String) : String :=
  quoted kind ++ " object has no attribute " ++ quoted "get"

/-- The result of the fields transcript, confidence and isFinal of a browser report. A result is
final unless isFinal is false in the loose sense; an interim result drops its confidence; the
transcript is shown as text and trimmed. -/
def SpeechResult.ofFields (p : Datum) : Except (List Issue) SpeechResult :=
  let final := ((p.field? "isFinal").getD (.bool true)).truthy
  let confidence := if final then (p.field? "confidence").getD .null else .null
  let text := trim ((p.field? "transcript").getD (.str "")).display
  SpeechResult.check (.record [("text", .str text), ("is_final", .bool final),
    ("confidence", confidence)])

/-- The result a browser reports, which must be a record. -/
def SpeechResult.ofPayload (p : Datum) : Except PayloadError SpeechResult :=
  match p with
  | .record _ => (SpeechResult.ofFields p).mapError .invalid
  | _ => .error (.notRecord p.kindName)

end VoiceCalc
