/-!
# Finite doubles in exact arithmetic

A binary floating point number of 53 bits, held as sign, mantissa and exponent, with rounding,
multiplication and division computed on natural numbers. Nothing here touches the machine's
floating point unit, so every value reduces in the kernel.

`Double.ofRatio` is the one place where rounding happens: to the nearest double, a tie to the even
mantissa. A magnitude that rounds beyond the largest double has no value.

## Main definitions

* `Double.ofRatio`: the double nearest to a quotient of naturals.
* `Double.mul`, `Double.div`: the rounded product and quotient of two magnitudes.
* `Double.scaled`: a 64 bit significand times a power of ten, rounded at each step.
-/

namespace CellRecipe.Decimal

/-- The number `± mantissa · 2 ^ exponent`. The values built here have a mantissa below `2 ^ 53`, an
exponent of at least `-1074`, and a mantissa of at least `2 ^ 52` unless the exponent is `-1074`. -/
structure Double where
  negative : Bool
  mantissa : Nat
  exponent : Int
  deriving DecidableEq, Inhabited

namespace Double

/-- The smallest exponent of a double. -/
def minExponent : Int := -1074

/-- The largest exponent of a double. -/
def maxExponent : Int := 971

/-- The least mantissa of 53 bits. -/
def leastMantissa : Nat := Nat.pow 2 52

/-- Zero with the given sign. -/
def zero (negative : Bool) : Double := ⟨negative, 0, minExponent⟩

/-- Is the magnitude zero? -/
def isZero (d : Double) : Bool := d.mantissa == 0

/-- The numerator of `n · 2 ^ e` as a fraction in naturals. -/
def scaleNum (n : Nat) (e : Int) : Nat := n * Nat.pow 2 e.toNat

/-- The denominator of `n · 2 ^ e` as a fraction in naturals. -/
def scaleDen (e : Int) : Nat := Nat.pow 2 (-e).toNat

/-- The quotient rounded to an integer, a tie to the even one. -/
def roundDiv (num den : Nat) : Nat :=
  let q := num / den
  let twice := 2 * (num % den)
  if twice < den then q else if den < twice then q + 1 else q + q % 2

/-- The exponent at which `num / den` has a mantissa of 53 bits, or the smallest exponent. -/
def exponentOf (num den : Nat) : Int :=
  let guess : Int := (num.log2 : Int) - den.log2 - 52
  let q := (num * Nat.pow 2 (-guess).toNat) / (den * Nat.pow 2 guess.toNat)
  max minExponent (if q < leastMantissa then guess - 1 else guess)

/-- The double nearest to `num / den`, a tie going to the even mantissa; none beyond the largest. -/
def ofRatio (negative : Bool) (num den : Nat) : Option Double :=
  if num = 0 then some (zero negative) else
  let e := exponentOf num den
  let m := roundDiv (num * Nat.pow 2 (-e).toNat) (den * Nat.pow 2 e.toNat)
  let (m, e) := if m = 2 * leastMantissa then (leastMantissa, e + 1) else (m, e)
  if e ≤ maxExponent then some ⟨negative, m, e⟩ else none

/-- The rounded product of two magnitudes, with the sign of the first. -/
def mul (a b : Double) : Option Double :=
  let e := a.exponent + b.exponent
  ofRatio a.negative (scaleNum (a.mantissa * b.mantissa) e) (scaleDen e)

/-- The rounded quotient of two magnitudes, with the sign of the first. -/
def div (a b : Double) : Option Double :=
  let e := a.exponent - b.exponent
  ofRatio a.negative (scaleNum a.mantissa e) (b.mantissa * scaleDen e)

/-- The largest power of ten that is a double. -/
def maxPower : Nat := 308

/-- The double nearest to a power of ten. -/
def power (k : Nat) : Option Double := ofRatio false (Nat.pow 10 k) 1

/-- `d · 10 ^ exponent`, with one rounding per factor. A large negative exponent is taken in steps
of `maxPower`; `steps` bounds them, and after three steps every magnitude is zero. -/
def shift (d : Double) (exponent : Int) : (steps : Nat) → Option Double
  | 0 => some (zero d.negative)
  | steps + 1 =>
    if exponent.natAbs ≤ maxPower then do
      let p ← power exponent.natAbs
      if 0 ≤ exponent then d.mul p else d.div p
    else if d.isZero then some d
    else if 0 < exponent then none
    else do
      let p ← power maxPower
      let d ← d.div p
      d.shift (exponent + maxPower) steps

/-- `significand · 10 ^ exponent`: the significand is rounded first, then scaled. -/
def scaled (negative : Bool) (significand : Nat) (exponent : Int) : Option Double := do
  let d ← ofRatio negative significand 1
  d.shift exponent 5

end Double

end CellRecipe.Decimal
