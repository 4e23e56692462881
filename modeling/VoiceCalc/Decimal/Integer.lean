-- Reading whole numbers written in decimal: white space around them, a sign, and digits of any
-- script with single underscores between digits. More digits than the limit cannot be read.
-- Underscores may also be dropped from a text as a whole, when none stands first, last or doubled.
import VoiceCalc.Text.Blank
import VoiceCalc.Token

namespace VoiceCalc.Decimal

open Text

/-- The code points of the digit zero of every script; the nine digits after each follow it. -/
def zeroDigits : Array Nat := #[
  0x30, 0x660, 0x6F0, 0x7C0, 0x966, 0x9E6, 0xA66, 0xAE6,
  0xB66, 0xBE6, 0xC66, 0xCE6, 0xD66, 0xDE6, 0xE50, 0xED0,
  0xF20, 0x1040, 0x1090, 0x17E0, 0x1810, 0x1946, 0x19D0, 0x1A80,
  0x1A90, 0x1B50, 0x1BB0, 0x1C40, 0x1C50, 0xA620, 0xA8D0, 0xA900,
  0xA9D0, 0xA9F0, 0xAA50, 0xABF0, 0xFF10, 0x104A0, 0x10D30, 0x11066,
  0x110F0, 0x11136, 0x111D0, 0x112F0, 0x11450, 0x114D0, 0x11650, 0x116C0,
  0x11730, 0x118E0, 0x11950, 0x11C50, 0x11D50, 0x11DA0, 0x16A60, 0x16AC0,
  0x16B50, 0x1D7CE, 0x1D7D8, 0x1D7E2, 0x1D7EC, 0x1D7F6, 0x1E140, 0x1E2F0,
  0x1E950, 0x1FBF0]

/-- The value of a decimal digit of any script. -/
def digitValue? (c : Char) : Option Nat :=
  (zeroDigits.find? fun z => z ≤ c.toNat && c.toNat < z + 10).map fun z => c.toNat - z

/-- Why a text is not a whole number: it is written wrongly, or it has more digits than the
limit, whose count is given. -/
inductive IntTextError
  | invalid
  | tooManyDigits (count : Nat)
  deriving DecidableEq, Repr

/-- The digits and single underscores at the front of `cs`, read into a value with the count of
digits, and the rest; `none` when an underscore does not stand between two digits. -/
def digitRun (value count : Nat) : List Char → Option (Nat × Nat × List Char)
  | [] => some (value, count, [])
  | c :: cs =>
    match digitValue? c with
    | some d => digitRun (10 * value + d) (count + 1) cs
    | none =>
      if c == '_' then
        match cs with
        | d :: _ => if count > 0 && (digitValue? d).isSome then digitRun value count cs else none
        | [] => none
      else some (value, count, c :: cs)

/-- The whole number a text writes in decimal. -/
def readInt (s : String) : Except IntTextError Int :=
  let cs := trimWhiteSpace s.toList
  let (neg, body) := match cs with
    | '-' :: r => (true, r)
    | '+' :: r => (false, r)
    | r => (false, r)
  match digitRun 0 0 body with
  | none => .error .invalid
  | some (v, n, rest) =>
    if n > digitLimit then .error (.tooManyDigits n)
    else if n == 0 || !rest.isEmpty then .error .invalid
    else .ok (if neg then -(v : Int) else v)

/-! ## Underscores -/

/-- The text without its underscores, when none stands first or last and no two stand
together. -/
def dropUnderscores? (cs : List Char) : Option (List Char) :=
  if cs.head? == some '_' || cs.getLast? == some '_' ||
      (cs.zip cs.tail).any (fun p => p.1 == '_' && p.2 == '_') then none
  else some (cs.filter (· != '_'))

example : dropUnderscores? "1_0".toList = some "10".toList ∧
    dropUnderscores? "1__0".toList = none := by decide

end VoiceCalc.Decimal
