import CellRecipe.Decimal.Double

/-!
# The shortest decimal that reads back

The digits of a double are the fewest that still round to it; of two such numbers with equally many
digits the nearer one is taken, and of two equally near ones the one with the even last digit.

For each count of digits the candidates are the two neighbours of the value on the decimal grid with
that many digits. If any point of a grid lies in the interval of reals that round to the double, so
does one of these two, so the first grid with a hit has the fewest digits.

## Main definitions

* `Shortest.decimal`: digits and position of the decimal point.
* `Shortest.Layout`, `Shortest.render`: how digits are laid out as text.
-/

namespace CellRecipe.Decimal.Shortest

/-- The number `0.digits · 10 ^ point`; the digits have no zero at either end. -/
structure Scaled where
  digits : Nat
  point : Int
  deriving DecidableEq

/-- The integer `p` with `10 ^ p ≤ num / den < 10 ^ (p + 1)`. -/
def leadingPower (num den : Nat) : Int :=
  if den ≤ num then ((num / den).repr.length : Int) - 1
  else
    let width := (den / num).repr.length
    if den = num * Nat.pow 10 (width - 1) then 1 - (width : Int) else -(width : Int)

/-- Both sides of the comparison of `a · 2 ^ s` with `b · 10 ^ t`, as naturals. -/
def sides (a : Nat) (s : Int) (b : Nat) (t : Int) : Nat × Nat :=
  (a * Nat.pow 2 s.toNat * Nat.pow 10 (-t).toNat, b * Nat.pow 10 t.toNat * Nat.pow 2 (-s).toNat)

/-- Does the grid point `n · 10 ^ t` round to the double with this mantissa and exponent? The ends
of the interval belong to it exactly when the mantissa is even. -/
def roundsTo (mantissa : Nat) (exponent : Int) (n : Nat) (t : Int) : Bool :=
  let gap := if mantissa = Double.leastMantissa ∧ Double.minExponent < exponent then 1 else 2
  let low := sides (4 * mantissa - gap) (exponent - 2) n t
  let high := sides (4 * mantissa + 2) (exponent - 2) n t
  if mantissa % 2 = 0 then low.1 ≤ low.2 && high.2 ≤ high.1 else low.1 < low.2 && high.2 < high.1

/-- The grid point with step `10 ^ t` that stands for the double, if one rounds to it. -/
def onGrid (mantissa : Nat) (exponent : Int) (t : Int) : Option Nat :=
  let (value, unit) := sides mantissa exponent 1 t
  let below := value / unit
  let twice := 2 * (value % unit)
  let lowFits := 0 < below && roundsTo mantissa exponent below t
  let highFits := roundsTo mantissa exponent (below + 1) t
  if lowFits && highFits then
    some (if twice < unit then below
      else if unit < twice then below + 1
      else below + below % 2)
  else if lowFits then some below
  else if highFits then some (below + 1)
  else none

/-- The number without the zeros at its end. -/
def stripZeros (n : Nat) : (steps : Nat) → Nat
  | 0 => n
  | steps + 1 => if n % 10 = 0 then stripZeros (n / 10) steps else n

/-- The first grid with a hit, trying `count` digits first; `left` grids remain. -/
def search (mantissa : Nat) (exponent lead : Int) (count : Nat) : (left : Nat) → Scaled
  | 0 => ⟨mantissa, (mantissa.repr.length : Int)⟩
  | left + 1 =>
    let t := lead + 1 - count
    match onGrid mantissa exponent t with
    | some n => ⟨stripZeros n n.repr.length, (n.repr.length : Int) + t⟩
    | none => search mantissa exponent lead (count + 1) left

/-- The shortest decimal of a nonzero magnitude. Seventeen digits always suffice. -/
def decimal (mantissa : Nat) (exponent : Int) : Scaled :=
  let lead := leadingPower (Double.scaleNum mantissa exponent) (Double.scaleDen exponent)
  search mantissa exponent lead 1 17

/-- How a decimal is laid out. -/
structure Layout where
  /-- Largest position of the point that is written without an exponent. -/
  maxPoint : Int
  /-- Smallest position of the point that is written without an exponent. -/
  minPoint : Int
  /-- What stands before an exponent that is not negative. -/
  plus : String

/-- `0` written `n` times. -/
def zeros (n : Nat) : String := String.ofList (List.replicate n '0')

/-- The digits with a point after the first `k`. -/
def insertPoint (digits : String) (k : Nat) : String :=
  let cs := digits.toList
  String.ofList (cs.take k) ++ "." ++ String.ofList (cs.drop k)

/-- A decimal in the given layout. Positional numbers always show a digit after the point. -/
def layOut (layout : Layout) (d : Scaled) : String :=
  let digits := d.digits.repr
  let count := digits.length
  if layout.minPoint ≤ d.point ∧ d.point ≤ layout.maxPoint then
    if d.point ≤ 0 then "0." ++ zeros (-d.point).toNat ++ digits
    else if (count : Int) ≤ d.point then digits ++ zeros (d.point - count).toNat ++ ".0"
    else insertPoint digits d.point.toNat
  else
    let head := if count = 1 then digits else insertPoint digits 1
    let e := d.point - 1
    head ++ "e" ++ (if e < 0 then "-" else layout.plus) ++ e.natAbs.repr

/-- The text of a double. -/
def render (layout : Layout) (d : Double) : String :=
  (if d.negative then "-" else "") ++
    (if d.isZero then "0.0" else layOut layout (decimal d.mantissa d.exponent))

end CellRecipe.Decimal.Shortest
