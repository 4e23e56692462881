-- Shortest decimals: the decimal with the fewest digits that reads back as a given finite double,
-- and of two such decimals the nearer one, a tie going to the even last digit. The search works on
-- the exact value m * 2^q in natural numbers: it tries one digit, then two, up to seventeen, and
-- takes the first length at which one of the value's two neighbours on that grid reads back.

namespace VoiceCalc.Decimal

/-! ## Doubles as exact binary values -/

/-- A finite non-negative double as the exact value `m * 2^q`. -/
structure Binary where
  m : Nat
  q : Int
  /-- The gap to the double below is half the gap to the double above. -/
  narrowBelow : Bool
  deriving Repr

/-- The exact value of the bits of a finite double, its sign left out. -/
def Binary.ofBits (b : UInt64) : Binary :=
  let e := ((b >>> 52) &&& 0x7FF).toNat
  let f := (b &&& 0xFFFFFFFFFFFFF).toNat
  if e == 0 then ⟨f, -1074, false⟩ else ⟨Nat.pow 2 52 + f, (e : Int) - 1075, f == 0 && e > 1⟩

/-- A decimal `digits * 10^exp`. -/
structure Dec where
  digits : Nat
  exp : Int
  deriving Repr, DecidableEq

/-- Compares `a * 10^i` with `n * 2^j` exactly. -/
def cmpScaled (a : Nat) (i : Int) (n : Nat) (j : Int) : Ordering :=
  compare (a * Nat.pow 10 i.toNat * Nat.pow 2 (-j).toNat)
    (n * Nat.pow 2 j.toNat * Nat.pow 10 (-i).toNat)

/-- The decimal lies among the reals that round to the double, to nearest with ties to even: from
halfway to the double below to halfway to the double above, the ends included when `m` is even. -/
def Binary.readsBack (x : Binary) (d : Dec) : Bool :=
  let lo := if x.narrowBelow then 4 * x.m - 1 else 4 * x.m - 2
  let hi := 4 * x.m + 2
  let incl := x.m % 2 == 0
  let cl := cmpScaled d.digits d.exp lo (x.q - 2)
  let ch := cmpScaled d.digits d.exp hi (x.q - 2)
  (cl == .gt || (incl && cl == .eq)) && (ch == .lt || (incl && ch == .eq))

/-! ## The scale of a value -/

/-- The value is below `10^k`. -/
def Binary.below (x : Binary) (k : Int) : Bool := cmpScaled 1 k x.m x.q == .gt

/-- Moves `k` up until the value is below `10^k`, at most `fuel` steps. -/
def Binary.raiseScale (x : Binary) : Nat → Int → Int
  | 0, k => k
  | fuel + 1, k => if x.below k then k else x.raiseScale fuel (k + 1)

/-- Moves `k` down while the value is still below `10^(k-1)`, at most `fuel` steps. -/
def Binary.lowerScale (x : Binary) : Nat → Int → Int
  | 0, k => k
  | fuel + 1, k => if x.below (k - 1) then x.lowerScale fuel (k - 1) else k

/-- The least `k` with the value below `10^k`, found from an estimate by the binary logarithm. -/
def Binary.scale (x : Binary) : Int :=
  let guess : Int := ((x.m.log2 : Int) + x.q) * 30103 / 100000
  x.lowerScale 4 (x.raiseScale 4 guess)

/-! ## The search -/

/-- The value's lower neighbour on the grid `10^g`, and whether the value lies nearer the upper
neighbour (`gt`), the lower one (`lt`) or halfway (`eq`). -/
def Binary.onGrid (x : Binary) (g : Int) : Nat × Ordering :=
  let num := x.m * Nat.pow 2 x.q.toNat * Nat.pow 10 (-g).toNat
  let den := Nat.pow 2 (-x.q).toNat * Nat.pow 10 g.toNat
  let lo := num / den
  (lo, compare (2 * num) ((2 * lo + 1) * den))

/-- The decimal of `n` digits that reads back, when one does: the nearer neighbour on the grid,
a tie going to the even one. -/
def Binary.withDigits (x : Binary) (k : Int) (n : Nat) : Option Dec :=
  let g := k - n
  let (lo, side) := x.onGrid g
  let below : Dec := ⟨lo, g⟩
  let above : Dec := ⟨lo + 1, g⟩
  match x.readsBack below, x.readsBack above with
  | true, true =>
    if side == .lt || (side == .eq && lo % 2 == 0) then some below else some above
  | true, false => some below
  | false, true => some above
  | false, false => none

/-- The decimal without trailing zeros in its digits. -/
def Dec.trim (d : Dec) (fuel : Nat) : Dec :=
  match fuel with
  | 0 => d
  | fuel + 1 => if d.digits != 0 && d.digits % 10 == 0 then Dec.trim ⟨d.digits / 10, d.exp + 1⟩ fuel else d

/-- The shortest decimal that reads back as the value, nearest of those; zero is `0`. -/
def Binary.shortest (x : Binary) : Dec :=
  if x.m == 0 then ⟨0, 0⟩ else
  let k := x.scale
  match (List.range 17).findSome? (fun i => x.withDigits k (i + 1)) with
  | some d => d.trim 17
  | none =>
    -- seventeen digits always read back; the exact value stands in for completeness
    if x.q ≥ 0 then ⟨x.m * Nat.pow 2 x.q.toNat, 0⟩ else ⟨x.m * Nat.pow 5 (-x.q).toNat, x.q⟩

end VoiceCalc.Decimal
