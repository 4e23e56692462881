-- The session report: sentences run through an engine one after another, each shown with its
-- confidence and what became of it, then the inputs of the calculator. The report is coloured
-- with terminal escapes, and a session counts as a success when every sentence was executed.
import VoiceCalc.Engine
import VoiceCalc.Text.Quoted

namespace VoiceCalc

open Decimal Text

namespace Report

/-- The sentences of the sample session, with their confidences. -/
def samples : List Transcript :=
  [⟨"level seven rare have three", 0.93, by decide⟩, ⟨"pve on scouting four copy two", 0.88, by decide⟩,
   ⟨"copy two scouting four pve on", 0.88, by decide⟩, ⟨"scouted four", 0.91, by decide⟩,
   ⟨"level twelve", 0.90, by decide⟩, ⟨"three star purple no ditto", 0.82, by decide⟩,
   ⟨"what's my odds", 0.77, by decide⟩, ⟨"level up", 0.95, by decide⟩, ⟨"banana", 0.95, by decide⟩,
   ⟨"reset", 0.41, by decide⟩]

/-- The sentences given, each with full confidence, or the samples when none is given. -/
def utterances (given : List String) : List Transcript :=
  if given.isEmpty then samples else given.map fun t => ⟨t, 1.0, one_mem_unit⟩

/-! ## Running a session -/

/-- Each sentence interpreted in turn, with the status read right after it. -/
def runAll : List Transcript → Step (List (Interpretation × String))
  | [] => pure []
  | t :: rest => do
    let r ← Engine.process t
    let status ← Engine.readStatus
    return (r, status) :: (← runAll rest)

/-! ## Writing the report -/

/-- Terminal escapes for colour and weight. -/
def red : String := "\x1b[91m"
def yellow : String := "\x1b[93m"
def green : String := "\x1b[92m"
def cyan : String := "\x1b[96m"
def dim : String := "\x1b[2m"
def bold : String := "\x1b[1m"
def plain : String := "\x1b[0m"

def width : Nat := 72

def rule (c : Char) : String := String.ofList (List.replicate width c)

/-- The text padded with spaces on the right to `n` characters. -/
def padRight (s : String) (n : Nat) : String := s ++ String.ofList (List.replicate (n - s.length) ' ')

/-- A command value as the report writes it: texts quoted, switches capitalised. -/
def valueText : CommandValue → String
  | .none => ""
  | .switch b => if b then "True" else "False"
  | .number n => toString n
  | .word w => quoted w

/-- The lines for one interpreted sentence, the blank line after it included. -/
def resultLines (r : Interpretation) (status : String) : List String :=
  let t := r.transcript
  let head := "  " ++ bold ++ "\x22" ++ t.text ++ "\x22" ++ plain ++ "  " ++ dim ++ "(confidence " ++
    fixed 0 (t.confidence * 100.0) ++ "%)" ++ plain
  let body := match r.outcome with
    | .lowConfidence => ["    " ++ yellow ++ "LOW CONFIDENCE" ++ plain ++ "  " ++ status]
    | .unknownCommand => ["    " ++ red ++ "UNKNOWN COMMAND" ++ plain ++ "  " ++ status]
    | .executed =>
      r.commands.map (fun c =>
        let value := if c.value == .none then "" else " = " ++ valueText c.value
        "    " ++ green ++ "✓" ++ plain ++ " " ++ c.kind.name ++ value ++ "  " ++ dim ++ c.feedback ++
          plain) ++
      r.failed.map fun c => "    " ++ red ++ "✗ " ++ c.kind.name ++ ": control not found" ++ plain
  head :: body ++ [""]

/-- A percentage as the report writes it. -/
def percentText : Option Percent → String
  | none => "None"
  | some (.whole n) => toString n
  | some (.real x) => showFloat x

/-- The inputs of the calculator, one per line, name and value. -/
def stateLines (s : CalcState) : List String :=
  let b := fun (x : Bool) => if x then "True" else "False"
  [("level", toString s.level), ("rarity", s.rarity), ("evolution", s.evolution),
   ("copies", toString s.copies), ("scouting", toString s.scouting), ("bench", toString s.bench),
   ("refreshes", toString s.refreshes), ("ditto", b s.ditto), ("pve", b s.pve),
   ("odds_requests", toString s.oddsRequests), ("per_refresh_odds", percentText s.perRefreshOdds),
   ("total_odds", percentText s.totalOdds)].map fun (name, v) => "    " ++ padRight name 14 ++ " " ++ v

/-- The whole report, each line ended by a line feed. -/
def render (results : List (Interpretation × String)) (s : CalcState) : String :=
  let lines := ["", rule '=', bold ++ cyan ++ "  VOICE CONTROL SESSION" ++ plain, rule '=', ""] ++
    results.flatMap (fun (r, st) => resultLines r st) ++
    [rule '─', "  " ++ bold ++ "Calculator state" ++ plain] ++ stateLines s ++ [rule '=', ""]
  String.join (lines.map (· ++ "\n"))

/-- The session succeeded when every sentence was executed. -/
def exitCode (results : List (Interpretation × String)) : Nat :=
  if results.all (·.1.outcome == .executed) then 0 else 1

end Report

end VoiceCalc
