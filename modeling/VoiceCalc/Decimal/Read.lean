-- Reading decimal numbers: an optional sign, digits with an optional point, an optional exponent,
-- or one of the words for infinity and for no number, in any case. The value is the double
-- nearest the decimal, a tie going to the even double. A lenient reading also takes digits of
-- any script, blanks of any script around the number and single underscores between digits.
import VoiceCalc.Decimal.Integer

namespace VoiceCalc.Decimal

/-- The double nearest `m * 10^e`, a tie going to the even double. Values far beyond the range of
doubles are read as infinity or zero without computing their powers. -/
def ofDecimal (m : Nat) (e : Int) : Float :=
  if m == 0 then 0.0
  else if e + (toString m).length > 400 then Float.ofScientific 1 false 400
  else if e + (toString m).length < -400 then 0.0
  else if e < 0 then Float.ofScientific m true e.natAbs
  else Float.ofScientific m false e.natAbs

/-- The double nearest the natural number, a tie going to the even double; infinity past the
largest double. Below two to the 53 the number is a double already; above, the number is cut to
53 significant bits, rounded on the bits cut off, and scaled back. -/
def nearestOfNat (n : Nat) : Float :=
  if n < Nat.pow 2 53 then Float.ofNat n
  else
    let cut := n.log2 - 52
    let q := n / Nat.pow 2 cut
    let r := n % Nat.pow 2 cut
    let half := Nat.pow 2 (cut - 1)
    let q := if r > half || (r == half && q % 2 == 1) then q + 1 else q
    Float.scaleB (Float.ofNat q) cut

/-- The double nearest the whole number, a tie going to the even double; `none` when the number
lies beyond the doubles, that is when it rounds to infinity. -/
def ofInt? (n : Int) : Option Float :=
  let x := nearestOfNat n.natAbs
  if x.isInf then none else some (if n < 0 then -x else x)

/-- The text in lower case, for the ASCII letters. -/
def asciiLower (cs : List Char) : List Char := cs.map Char.toLower

/-- The unsigned number a text writes: digits with an optional point and at least one digit, then
an optional exponent; or infinity or no number spelled out. -/
def readUnsigned? (cs : List Char) : Option Float :=
  let word := asciiLower cs
  if word == "inf".toList || word == "infinity".toList then some (1.0 / 0.0)
  else if word == "nan".toList then some (0.0 / 0.0)
  else
    let whole := cs.takeWhile Char.isDigit
    let r := cs.dropWhile Char.isDigit
    let (frac, r) := match r with
      | '.' :: r' => (r'.takeWhile Char.isDigit, r'.dropWhile Char.isDigit)
      | _ => ([], r)
    if whole.isEmpty && frac.isEmpty then none
    else
      let expo : Option Int := match r with
        | [] => some 0
        | c :: r' =>
          if c == 'e' || c == 'E' then
            let (neg, ds) := match r' with
              | '-' :: ds => (true, ds)
              | '+' :: ds => (false, ds)
              | ds => (false, ds)
            if !ds.isEmpty && ds.all Char.isDigit then
              let v : Int := digitsValue ds
              some (if neg then -v else v)
            else none
          else none
      expo.map fun x => ofDecimal (digitsValue (whole ++ frac)) (x - frac.length)

/-- The number a text writes, with an optional sign in front. -/
def readFloat? (cs : List Char) : Option Float :=
  match cs with
  | '-' :: r => (readUnsigned? r).map (- ·)
  | '+' :: r => readUnsigned? r
  | r => readUnsigned? r

/-- The text with every underscore that stands between two ASCII digits removed; `none` when an
underscore stands anywhere else. -/
def dropDigitUnderscores : List Char → Option (List Char)
  | [] => some []
  | c :: '_' :: d :: rest =>
    if c.isDigit && d.isDigit then (dropDigitUnderscores (d :: rest)).map (c :: ·) else none
  | c :: rest => if c == '_' then none else (dropDigitUnderscores rest).map (c :: ·)

/-- The text in ASCII: a decimal digit of any script becomes its ASCII digit and a blank beyond
ASCII a space; `none` when a character beyond ASCII is neither. -/
def asciiDigits? (cs : List Char) : Option (List Char) :=
  cs.mapM fun c =>
    if c.toNat < 127 then some c
    else if Text.isBlank c then some ' '
    else (digitValue? c).map fun d => Char.ofNat (48 + d)

/-- The ASCII blanks a number may have around it: space, and tab to carriage return. -/
def isAsciiSpace (c : Char) : Bool := c == ' ' || (0x9 ≤ c.toNat && c.toNat ≤ 0xD)

/-- The number a text writes, read leniently: digits of any script are their ASCII digits,
blanks of any script around the number are dropped, and so are single underscores between two
digits. -/
def readLenient? (s : String) : Option Float := do
  let cs ← asciiDigits? s.toList
  let cs ← dropDigitUnderscores cs
  readFloat? ((cs.dropWhile isAsciiSpace).reverse.dropWhile isAsciiSpace).reverse

end VoiceCalc.Decimal
