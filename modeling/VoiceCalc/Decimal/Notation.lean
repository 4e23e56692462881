-- How doubles are written as text. The digits are the shortest that read back; a notation decides
-- where they are written positionally and where with an exponent, how wide the exponent is, and
-- that a whole number keeps a point and a zero, so that the text always reads as a double. With a
-- fixed number of places the exact binary value is rounded to the nearest multiple of the last
-- place, a tie going to the even neighbour: 2.25, which a double holds exactly, gives 2.2 with one
-- place, and 2.35, held a little above, gives 2.4.
import VoiceCalc.Decimal.Shortest

namespace VoiceCalc.Decimal

/-- Where a notation writes the point positionally, and how it writes an exponent. -/
structure Notation where
  /-- The fewest places the point may stand before the first digit, negated: `-3` allows
  `0.0001`. -/
  minPoint : Int
  /-- The most digits that may stand before the point. -/
  maxPoint : Int
  /-- The least number of digits of a written exponent. -/
  expWidth : Nat

/-- The notation of the calculator's answers and messages: positional from `0.0001` up to sixteen
digits before the point, else one digit, the point, the rest and an exponent of two digits at
least with its sign (`1e-09`, `1e+16`). -/
def Notation.answers : Notation := ⟨-3, 16, 2⟩

def signBit (x : Float) : Bool := x.toBits >>> 63 == 1

def digitsOf (n : Nat) : List Char := (toString n).toList

/-- The text of a decimal `0.d1d2... * 10^point` with digits `ds`, in the notation. -/
def Notation.layout (nt : Notation) (ds : List Char) (point : Int) : String :=
  if nt.minPoint ≤ point && point ≤ nt.maxPoint then
    if point ≤ 0 then
      String.ofList ('0' :: '.' :: List.replicate point.natAbs '0' ++ ds)
    else if ds.length ≤ point.toNat then
      String.ofList (ds ++ List.replicate (point.toNat - ds.length) '0' ++ ['.', '0'])
    else
      String.ofList (ds.take point.toNat ++ '.' :: ds.drop point.toNat)
  else
    let e := point - 1
    let mant := match ds with
      | d :: rest@(_ :: _) => d :: '.' :: rest
      | _ => ds
    let ed := digitsOf e.natAbs
    String.ofList (mant ++ 'e' :: (if e < 0 then '-' else '+') ::
      List.replicate (nt.expWidth - ed.length) '0' ++ ed)

/-- The text of a double in the notation: `nan`, `inf` and `-inf` for the values that are no
numbers, else the shortest digits with the sign in front. -/
def Notation.render (nt : Notation) (x : Float) : String :=
  if x.isNaN then "nan"
  else if x.isInf then (if x < 0 then "-inf" else "inf")
  else
    let sign := if signBit x then "-" else ""
    let d := (Binary.ofBits x.toBits).shortest
    if d.digits == 0 then sign ++ "0.0"
    else
      let ds := digitsOf d.digits
      sign ++ nt.layout ds (ds.length + d.exp)

/-- The text of a double in the answers' notation. -/
def showFloat (x : Float) : String := Notation.answers.render x

/-- `num / den` rounded to the nearest whole number, a tie going to the even one. -/
def roundHalfEven (num den : Nat) : Nat :=
  let q := num / den
  let r := num % den
  if 2 * r < den then q
  else if 2 * r > den then q + 1
  else if q % 2 == 0 then q else q + 1

/-- A double written with `places` digits after the point, its sign kept. -/
def fixed (places : Nat) (x : Float) : String :=
  if x.isNaN then "nan"
  else if x.isInf then (if x < 0 then "-inf" else "inf")
  else
    let b := Binary.ofBits x.toBits
    let num := b.m * Nat.pow 2 b.q.toNat * Nat.pow 10 places
    let den := Nat.pow 2 (-b.q).toNat
    let ds := digitsOf (roundHalfEven num den)
    let ds := List.replicate (places + 1 - ds.length) '0' ++ ds
    let whole := ds.take (ds.length - places)
    let frac := ds.drop (ds.length - places)
    let body := if places == 0 then whole else whole ++ '.' :: frac
    String.ofList ((if signBit x then ['-'] else []) ++ body)

end VoiceCalc.Decimal
