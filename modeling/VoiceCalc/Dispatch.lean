-- Dispatch: each command goes to the one control it is aimed at. The value is first brought to
-- the type the control takes (a whole number, a text or a switch position); a command whose
-- control is missing is set aside and the others still run, in order.
import VoiceCalc.Calculator
import VoiceCalc.Command
import VoiceCalc.Decimal.Integer
import VoiceCalc.Text.Quoted

namespace VoiceCalc

open Decimal Text

/-- A command value that cannot be taken as a whole number. -/
inductive ConversionError
  | notWhole (text : String)
  | tooManyDigits (count : Nat)
  | nothing
  deriving DecidableEq, Repr

/-- The message for a value that is no whole number. -/
def ConversionError.message : ConversionError → String
  | .notWhole t => "invalid literal for int() with base 10: " ++ String.ofList ((quoted t).toList.take 200)
  | .tooManyDigits n => TooManyDigits.message ⟨n⟩
  | .nothing =>
    "int() argument must be a string, a bytes-like object or a real number, not 'NoneType'"

namespace CommandValue

/-- The value as a whole number: a switch counts as 0 or 1, a word must write a whole number. -/
def toWhole : CommandValue → Except ConversionError Int
  | .none => .error .nothing
  | .switch b => .ok (if b then 1 else 0)
  | .number n => .ok n
  | .word w => match readInt w with
    | .ok n => .ok n
    | .error .invalid => .error (.notWhole w)
    | .error (.tooManyDigits n) => .error (.tooManyDigits n)

def toText : CommandValue → String
  | .none => "None"
  | .switch b => if b then "True" else "False"
  | .number n => toString n
  | .word w => w

/-- The value as a switch position: nothing, off, zero and the empty word are off. -/
def isOn : CommandValue → Bool
  | .none => false
  | .switch b => b
  | .number n => n != 0
  | .word w => !w.isEmpty

end CommandValue

/-- Why a command could not be applied: its value, or a missing control. -/
inductive ApplyError
  | conversion (e : ConversionError)
  | missing (e : MissingControl)
  deriving DecidableEq, Repr

namespace Calculator

/-- The calculator after one command. -/
def apply (c : Calculator) (cmd : Command) : Except ApplyError Calculator := do
  let whole := fun (_ : Unit) => cmd.value.toWhole.mapError ApplyError.conversion
  let aim := fun (r : Except MissingControl Calculator) => r.mapError ApplyError.missing
  match cmd.kind with
  | .level => aim (c.selectLevel (← whole ()))
  | .levelStep => aim (c.stepLevel (← whole ()))
  | .rarity => aim (c.selectRarity cmd.value.toText)
  | .evolution => aim (c.selectEvolution cmd.value.toText)
  | .copies => aim (c.setNumber .copies (← whole ()))
  | .scouting => aim (c.setNumber .scouting (← whole ()))
  | .bench => aim (c.setNumber .bench (← whole ()))
  | .refreshes => aim (c.setNumber .refreshes (← whole ()))
  | .ditto => aim (c.setSwitch .ditto cmd.value.isOn)
  | .pve => aim (c.setSwitch .pve cmd.value.isOn)
  | .query => aim c.readOdds
  | .reset => aim c.clearAll

/-- Applies the commands in order and gives back those whose control is missing; a value that is
no whole number stops the run where it stands. -/
def dispatch (c : Calculator) : List Command → Calculator × Except ConversionError (List Command)
  | [] => (c, .ok [])
  | cmd :: rest =>
    match c.apply cmd with
    | .ok c' => c'.dispatch rest
    | .error (.missing _) =>
      let (c'', r) := c.dispatch rest
      (c'', r.map (cmd :: ·))
    | .error (.conversion e) => (c, .error e)

end Calculator

end VoiceCalc
