-- Commands: what one stretch of a sentence asks the calculator to do. A command names the input it
-- changes, carries the value to set (a switch, a number, a word or nothing) and the short text
-- shown back to the player. A command from a request has a kind by its written name and a value
-- that is nothing, a switch, a whole number or a word; a value of another kind is tried as a
-- switch and then as a whole number, and refused as each of the three when neither fits.
import VoiceCalc.Datum

namespace VoiceCalc

/-- The calculator input a command changes. -/
inductive CommandKind
  | level
  | levelStep
  | rarity
  | evolution
  | copies
  | scouting
  | bench
  | refreshes
  | ditto
  | pve
  | query
  | reset
  deriving DecidableEq, Repr

/-- Every kind, in the order the kinds are declared. -/
def CommandKind.all : List CommandKind :=
  [.level, .levelStep, .rarity, .evolution, .copies, .scouting, .bench, .refreshes, .ditto, .pve,
   .query, .reset]

def CommandKind.name : CommandKind → String
  | .level => "level"
  | .levelStep => "level_step"
  | .rarity => "rarity"
  | .evolution => "evolution"
  | .copies => "copies"
  | .scouting => "scouting"
  | .bench => "bench"
  | .refreshes => "refreshes"
  | .ditto => "ditto"
  | .pve => "pve"
  | .query => "query"
  | .reset => "reset"

def CommandKind.ofName? (s : String) : Option CommandKind :=
  CommandKind.all.find? (·.name == s)

/-- The value a command sets: nothing, a switch position, a whole number or a word. -/
inductive CommandValue
  | none
  | switch (on : Bool)
  | number (n : Int)
  | word (w : String)
  deriving DecidableEq, Repr

/-- One instruction for the calculator. -/
structure Command where
  kind : CommandKind
  value : CommandValue
  feedback : String
  deriving DecidableEq, Repr

/-- The texts shown for a list of commands, joined by commas. -/
def feedbackOf (cs : List Command) : String :=
  ", ".intercalate (cs.map (·.feedback))

instance : Inhabited CommandKind := ⟨.level⟩

instance : Inhabited CommandValue := ⟨.none⟩

def CommandKind.ofDatum : Datum → Except Refusal CommandKind
  | .str s => match CommandKind.ofName? s with
    | some k => .ok k
    | none => .error .notAKind
  | _ => .error .notAKind

/-- A value given as nothing, a switch, a whole number or a word; another datum is taken as a
switch when it can be, else as a whole number, else refused as all three. -/
def CommandValue.ofDatum : Datum → Except (List (List String × Refusal)) CommandValue
  | .null => .ok .none
  | .bool b => .ok (.switch b)
  | .int n => .ok (.number n)
  | .str s => .ok (.word s)
  | d => match d.toBool with
    | .ok b => .ok (.switch b)
    | .error rb => match d.toInt with
      | .ok n => .ok (.number n)
      | .error ri => .error [(["bool"], rb), (["int"], ri), (["str"], .stringType)]

def Command.check (d : Datum) : Except (List Issue) Command := Checks.finish do
  let kind ← Checks.field d "kind" none CommandKind.ofDatum
  let value ← Checks.fieldAt d "value" (some .none) CommandValue.ofDatum
  let feedback ← Checks.field d "feedback" none Datum.toStr
  return ⟨kind, value, feedback⟩

end VoiceCalc
