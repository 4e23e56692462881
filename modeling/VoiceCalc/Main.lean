-- The command line: runs the sentences given as arguments, or the sample session when none is
-- given, through an engine set up from the environment, and prints the report. The exit code is
-- zero when every sentence was executed.
import VoiceCalc.Report

open VoiceCalc

/-- Runs the session and prints its report. -/
def main (args : List String) : IO UInt32 := do
  let mut found : List (String × String) := []
  for (var, _) in Settings.variables do
    if let some v ← IO.getEnv var then found := (var, v) :: found
  let env := fun k => found.lookup k
  match Settings.fromEnv env with
  | .error e =>
    IO.eprintln e.message
    return 1
  | .ok s =>
    match Engine.make s ⟨CalcState.fresh, allControls⟩ none none with
    | .error e =>
      IO.eprintln e.message
      return 1
    | .ok engine =>
      match (Report.runAll (Report.utterances args)).run engine with
      | .ok results engine =>
        IO.print (Report.render results engine.calculator.state)
        return (Report.exitCode results).toUInt32
      | .error f _ =>
        IO.eprintln f.message
        return 1
