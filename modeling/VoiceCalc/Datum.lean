-- Data as requests carry them: nothing, a switch, a whole number, a decimal number, a text, a list
-- or a record of named data, and the checks that convert the fields of a request into the types of
-- the calculator. Each field is converted leniently: a number may come as text, a switch as 0, 1
-- or a word such as "yes", a whole number as a decimal with no fraction. A field that cannot be
-- converted, or breaks its bounds, is refused with the reason, and every field is checked, so a
-- request hears of all its faults at once.
import VoiceCalc.Decimal.Read
import VoiceCalc.Decimal.Integer
import VoiceCalc.Decimal.Shortest

namespace VoiceCalc

/-- One datum of a request. A record keeps its fields in the order they were written. -/
inductive Datum
  | null
  | bool (b : Bool)
  | int (n : Int)
  | float (x : Float)
  | str (s : String)
  | list (xs : List Datum)
  | record (fields : List (String × Datum))
  deriving Inhabited

namespace Datum

/-- The name of the kind of a datum, as messages about a wrong kind give it. -/
def kindName : Datum → String
  | .null => "NoneType"
  | .bool _ => "bool"
  | .int _ => "int"
  | .float _ => "float"
  | .str _ => "str"
  | .list _ => "list"
  | .record _ => "dict"

/-- The field of a record with the given name; the last field of that name wins. -/
def field? (d : Datum) (name : String) : Option Datum :=
  match d with
  | .record fs => (fs.reverse.find? (·.1 == name)).map (·.2)
  | _ => none

end Datum

open Text Decimal

/-! ## Reasons -/

/-- Why a datum does not fit a field. Bounds are kept as the text the message shows. -/
inductive Refusal
  | missing
  | floatType
  | floatParsing
  | intType
  | intParsing
  | intParsingSize
  | intFromFloat
  | finiteNumber
  | boolType
  | boolParsing
  | stringType
  | stringTooLong (limit : Nat)
  | lessThanEqual (bound : String)
  | greaterThanEqual (bound : String)
  | greaterThan (bound : String)
  | notAKind
  deriving DecidableEq, Repr

namespace Refusal

def code : Refusal → String
  | .missing => "missing"
  | .floatType => "float_type"
  | .floatParsing => "float_parsing"
  | .intType => "int_type"
  | .intParsing => "int_parsing"
  | .intParsingSize => "int_parsing_size"
  | .intFromFloat => "int_from_float"
  | .finiteNumber => "finite_number"
  | .boolType => "bool_type"
  | .boolParsing => "bool_parsing"
  | .stringType => "string_type"
  | .stringTooLong _ => "string_too_long"
  | .lessThanEqual _ => "less_than_equal"
  | .greaterThanEqual _ => "greater_than_equal"
  | .greaterThan _ => "greater_than"
  | .notAKind => "enum"

def message : Refusal → String
  | .missing => "Field required"
  | .floatType => "Input should be a valid number"
  | .floatParsing => "Input should be a valid number, unable to parse string as a number"
  | .intType => "Input should be a valid integer"
  | .intParsing => "Input should be a valid integer, unable to parse string as an integer"
  | .intParsingSize => "Unable to parse input string as an integer, exceeded maximum size"
  | .intFromFloat => "Input should be a valid integer, got a number with a fractional part"
  | .finiteNumber => "Input should be a finite number"
  | .boolType => "Input should be a valid boolean"
  | .boolParsing => "Input should be a valid boolean, unable to interpret input"
  | .stringType => "Input should be a valid string"
  | .stringTooLong n => "String should have at most " ++ toString n ++ " characters"
  | .lessThanEqual b => "Input should be less than or equal to " ++ b
  | .greaterThanEqual b => "Input should be greater than or equal to " ++ b
  | .greaterThan b => "Input should be greater than " ++ b
  | .notAKind =>
    "Input should be 'level', 'level_step', 'rarity', 'evolution', 'copies', 'scouting', " ++
      "'bench', 'refreshes', 'ditto', 'pve', 'query' or 'reset'"

end Refusal

/-- A refusal and the place of the field in the request. -/
structure Issue where
  loc : List String
  refusal : Refusal
  deriving DecidableEq, Repr

/-! ## Lenient conversions -/

/-- The whole number a double holds exactly, if it holds one. -/
def wholeOf? (x : Float) : Option Int :=
  if x.isNaN || x.isInf then none
  else
    let b := Binary.ofBits x.toBits
    let mag : Option Nat :=
      if b.q ≥ 0 then some (b.m * Nat.pow 2 b.q.toNat)
      else if b.m % Nat.pow 2 (-b.q).toNat == 0 then some (b.m / Nat.pow 2 (-b.q).toNat)
      else none
    mag.map fun n => if x.toBits >>> 63 == 1 then -(n : Int) else n

/-- The whole number a double holds, as a field of whole numbers takes it: infinity and no number
are not finite, a fraction is refused, and so is a value outside the open range from minus to plus
two to the 63. -/
def wholeOfDouble (x : Float) : Except Refusal Int :=
  if x.isNaN || x.isInf then .error .finiteNumber
  else match wholeOf? x with
    | none => .error .intFromFloat
    | some n =>
      if -(Nat.pow 2 63 : Int) < n && n < (Nat.pow 2 63 : Int) then .ok n else .error .intParsingSize

/-- The whole number fits in 64 bits with a sign. -/
def fitsWord (n : Int) : Bool := -(Nat.pow 2 63 : Int) ≤ n && n < (Nat.pow 2 63 : Int)

/-- A number written as text: white space around it is ignored; when the text does not read so,
its underscores are dropped, none of them first, last or doubled, and it is read as it stands. -/
def numberOfText? (s : String) : Option Float :=
  match readFloat? (trimWhiteSpace s.toList) with
  | some x => some x
  | none => (dropUnderscores? s.toList).bind readFloat?

/-- The digits of a whole number written as text: an optional sign, ASCII digits with single
underscores between digits, and an optional fraction of one or more zeros. The sign and the digits
are given. -/
def wholeText? (cs : List Char) : Option (Bool × List Char) :=
  let (neg, r) := match cs with
    | '-' :: r => (true, r)
    | '+' :: r => (false, r)
    | r => (false, r)
  let (whole, frac) := r.span (· != '.')
  let fracOk := match frac with
    | [] => true
    | _ :: zeros => !zeros.isEmpty && zeros.all (· == '0')
  if !fracOk then none
  else match dropUnderscores? whole with
    | some ds => if !ds.isEmpty && ds.all Char.isDigit then some (neg, ds) else none
    | none => none

/-- A whole number written as text: white space around it is ignored, then it is read by
`wholeText?`. A number of more digits than the limit is refused by its size. -/
def wholeOfText (s : String) : Except Refusal Int :=
  match wholeText? (trimWhiteSpace s.toList) with
  | none => .error .intParsing
  | some (neg, ds) =>
    if ds.length > digitLimit then .error .intParsingSize
    else .ok (if neg then -(digitsValue ds : Int) else digitsValue ds)

namespace Datum

/-- A decimal number: a double, a whole number, a switch as 0 or 1, or a number written as text. -/
def toFloat : Datum → Except Refusal Float
  | .float x => .ok x
  | .int n => match ofInt? n with
    | some x => .ok x
    | none => .error .floatType
  | .bool b => .ok (if b then 1.0 else 0.0)
  | .str s => match numberOfText? s with
    | some x => .ok x
    | none => .error .floatParsing
  | _ => .error .floatType

/-- A whole number: a whole number, a switch as 0 or 1, a double without fraction, or a whole
number written as text. -/
def toInt : Datum → Except Refusal Int
  | .int n => .ok n
  | .bool b => .ok (if b then 1 else 0)
  | .float x => wholeOfDouble x
  | .str s => wholeOfText s
  | _ => .error .intType

/-- The words that name a switch position, in lower case. -/
def switchWord? (w : String) : Option Bool :=
  if ["1", "on", "t", "true", "y", "yes"].contains w then some true
  else if ["0", "off", "f", "false", "n", "no"].contains w then some false
  else none

/-- A switch position: a switch; a whole number of 64 bits that is 0 or 1; a double that is 0 or
1 as such a whole number; or a word for on or off in any ASCII case. -/
def toBool : Datum → Except Refusal Bool
  | .bool b => .ok b
  | .int n =>
    if !fitsWord n then .error .boolType
    else if n == 0 then .ok false else if n == 1 then .ok true else .error .boolParsing
  | .float x => match wholeOfDouble x with
    | .ok 0 => .ok false
    | .ok 1 => .ok true
    | .ok _ => .error .boolParsing
    | .error _ => .error .boolType
  | .str s => match switchWord? (String.ofList (s.toList.map Char.toLower)) with
    | some b => .ok b
    | none => .error .boolParsing
  | _ => .error .boolType

def toStr : Datum → Except Refusal String
  | .str s => .ok s
  | _ => .error .stringType

end Datum

/-! ## Bounds -/

/-- The double is at most the bound. A number that is no number breaks every bound. -/
def atMost (b : Nat) (x : Float) : Except Refusal Float :=
  if x ≤ Float.ofNat b then .ok x else .error (.lessThanEqual (toString b))

def atLeast (b : Nat) (x : Float) : Except Refusal Float :=
  if x ≥ Float.ofNat b then .ok x else .error (.greaterThanEqual (toString b))

def above (b : Nat) (x : Float) : Except Refusal Float :=
  if x > Float.ofNat b then .ok x else .error (.greaterThan (toString b))

def wholeAtMost (b : Int) (n : Int) : Except Refusal Int :=
  if n ≤ b then .ok n else .error (.lessThanEqual (toString b))

def wholeAtLeast (b : Int) (n : Int) : Except Refusal Int :=
  if n ≥ b then .ok n else .error (.greaterThanEqual (toString b))

/-- A decimal number from 0 to 1. -/
def toFraction (d : Datum) : Except Refusal Float :=
  d.toFloat >>= atMost 1 >>= atLeast 0

/-- A step in `Except` succeeds when its first part succeeds and the rest succeeds on its value. -/
theorem except_bind_eq_ok {ε α β : Type} {x : Except ε α} {f : α → Except ε β} {b : β} :
    x >>= f = .ok b ↔ ∃ a, x = .ok a ∧ f a = .ok b := by
  cases x with
  | error e => simp [bind, Except.bind]
  | ok a => simp [bind, Except.bind]

/-- A bound check passes its value only when the bound holds. -/
theorem ok_of_ite_eq_ok {α ε : Type} {c : Prop} [Decidable c] {x v : α} {r : ε}
    (h : (if c then Except.ok x else .error r) = .ok v) : c ∧ v = x := by
  split at h
  · next hc => exact ⟨hc, (Except.ok.inj h).symm⟩
  · cases h

theorem Float.ofNat_zero_eq : Float.ofNat 0 = 0.0 := by decide

theorem Float.ofNat_one_eq : Float.ofNat 1 = 1.0 := by decide

/-- A double that passes the check of a fraction lies from 0 to 1. -/
theorem toFraction_bounds {d : Datum} {v : Float} (h : toFraction d = .ok v) : 0.0 ≤ v ∧ v ≤ 1.0 := by
  obtain ⟨y, hy, hv⟩ := except_bind_eq_ok.1 h
  obtain ⟨z, -, hz⟩ := except_bind_eq_ok.1 hy
  obtain ⟨hle, rfl⟩ := ok_of_ite_eq_ok hz
  obtain ⟨hge, rfl⟩ := ok_of_ite_eq_ok hv
  rw [← Float.ofNat_zero_eq, ← Float.ofNat_one_eq]
  exact ⟨hge, hle⟩

/-- A double from 0 to 1. -/
abbrev Fraction := {x : Float // 0.0 ≤ x ∧ x ≤ 1.0}

theorem zero_mem_unit : (0.0 : Float) ≤ 0.0 ∧ (0.0 : Float) ≤ 1.0 := by decide

theorem one_mem_unit : (0.0 : Float) ≤ 1.0 ∧ (1.0 : Float) ≤ 1.0 := by decide

instance : Inhabited Fraction := ⟨⟨0.0, zero_mem_unit⟩⟩

/-- A decimal number from 0 to 1, kept with its bounds. -/
def toFractionIn (d : Datum) : Except Refusal Fraction :=
  match h : toFraction d with
  | .ok x => .ok ⟨x, toFraction_bounds h⟩
  | .error r => .error r

/-! ## Checking a record -/

/-- Checking fields one after another, gathering the issues. A refused field stands in with a
fallback value so the later fields are still checked. -/
abbrev Checks := StateM (List Issue)

/-- The record's field, converted; an absent field takes the default, or is missing. -/
def Checks.field [Inhabited α] (d : Datum) (name : String) (preset : Option α)
    (conv : Datum → Except Refusal α) : Checks α :=
  match d.field? name, preset with
  | none, some v => pure v
  | none, none => do modify (· ++ [⟨[name], .missing⟩]); pure Inhabited.default
  | some x, _ => match conv x with
    | .ok v => pure v
    | .error r => do modify (· ++ [⟨[name], r⟩]); pure Inhabited.default

/-- The record's field, converted by a check that may refuse at several places inside it. -/
def Checks.fieldAt [Inhabited α] (d : Datum) (name : String) (preset : Option α)
    (conv : Datum → Except (List (List String × Refusal)) α) : Checks α :=
  match d.field? name, preset with
  | none, some v => pure v
  | none, none => do modify (· ++ [⟨[name], .missing⟩]); pure Inhabited.default
  | some x, _ => match conv x with
    | .ok v => pure v
    | .error rs => do
      modify (· ++ rs.map fun (loc, r) => ⟨name :: loc, r⟩)
      pure Inhabited.default

/-- The value, or every issue found on the way. -/
def Checks.finish (c : Checks α) : Except (List Issue) α :=
  let (v, issues) := c.run []
  if issues.isEmpty then .ok v else .error issues

end VoiceCalc
