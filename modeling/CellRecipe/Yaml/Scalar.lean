import CellRecipe.Decimal.Double
import CellRecipe.Text.Numeral

/-!
# Plain scalars

What a plain scalar denotes besides a text: nothing, a truth value, an integer or a number with a
fraction. Integers may be written in hexadecimal, octal or binary; a decimal integer has no leading
zeros, so `007` is a text, although one that is never written plain.

## Main definitions

* `Scalar.isNull`, `Scalar.flag?`, `Scalar.unsigned?`, `Scalar.signed?`: the values.
* `Scalar.isAmbiguous`: would a text be taken for something else if it were written plain?
-/

namespace CellRecipe.Yaml.Scalar

/-! ## Nothing and truth values -/

/-- Does the scalar stand for nothing? -/
def isNull (cs : List Char) : Bool :=
  ["null".toList, "Null".toList, "NULL".toList, ['~']].contains cs

/-- The truth value of a scalar. -/
def flag? (cs : List Char) : Option Bool :=
  if ["true".toList, "True".toList, "TRUE".toList].contains cs then some true
  else if ["false".toList, "False".toList, "FALSE".toList].contains cs then some false
  else none

/-! ## Integers -/

/-- The value of a digit in a radix of at most sixteen. -/
def radixDigit? (radix : Nat) (c : Char) : Option Nat :=
  (Text.hexDigitValue? c).filter (· < radix)

/-- The number that one or more digits denote in a radix. -/
def radixDigits? (radix : Nat) (cs : List Char) : Option Nat :=
  if cs.isEmpty then none
  else cs.foldl (fun n c => do return radix * (← n) + (← radixDigit? radix c)) (some 0)

/-- The scalar without one sign at its head. -/
def dropSign : List Char → List Char
  | '+' :: rest => rest
  | '-' :: rest => rest
  | cs => cs

/-- Is the scalar made of digits with a leading zero, and so no number? -/
def hasLeadingZero (cs : List Char) : Bool :=
  match dropSign cs with
  | '0' :: c :: rest => (c :: rest).all Text.isDigit
  | _ => false

/-- A natural number without a sign. -/
def magnitude? : List Char → Option Nat
  | '0' :: 'x' :: rest => radixDigits? 16 rest
  | '0' :: 'o' :: rest => radixDigits? 8 rest
  | '0' :: 'b' :: rest => radixDigits? 2 rest
  | cs => if hasLeadingZero cs then none else Text.digits? cs

/-- A natural number up to `high`, with an optional plus sign. -/
def unsigned? (high : Nat) (cs : List Char) : Option Nat :=
  (magnitude? (Text.dropPlus cs)).filter (· ≤ high)

/-- A negative number, or zero with a minus sign, not below `low`. -/
def negative? (low : Int) : List Char → Option Int
  | '-' :: rest => ((magnitude? rest).map fun n => -(n : Int)).filter (low ≤ ·)
  | _ => none

/-- An integer from `low` to `high`, with an optional sign. -/
def signed? (low high : Int) (cs : List Char) : Option Int :=
  ((unsigned? high.toNat cs).map fun n => (n : Int)) <|> negative? low cs

/-! ## Fractions -/

/-- Is `digits · 10 ^ exponent` below the bound beyond which no double is finite? -/
def isFinite (digits : Nat) (exponent : Int) : Bool :=
  let width : Int := (Nat.repr digits).length
  if digits = 0 ∨ width + exponent < 300 then true
  else if 320 < width + exponent then false
  else (Decimal.Double.ofRatio false (digits * Nat.pow 10 exponent.toNat)
    (Nat.pow 10 (-exponent).toNat)).isSome

/-- The exponent after the digits, if what is left has the form of one. -/
def exponent? : List Char → Option Int
  | [] => some 0
  | c :: rest => if c = 'e' ∨ c = 'E' then Text.integer? rest else none

/-- Do the characters without a sign denote a finite number in decimal notation? -/
def isDecimal (cs : List Char) : Bool :=
  let whole := cs.takeWhile Text.isDigit
  let rest := cs.dropWhile Text.isDigit
  let (fraction, rest) :=
    match rest with
    | '.' :: tail => (tail.takeWhile Text.isDigit, tail.dropWhile Text.isDigit)
    | _ => ([], rest)
  let digits := whole ++ fraction
  match exponent? rest with
  | some e => !digits.isEmpty && isFinite (Text.digitsValue digits) (e - fraction.length)
  | none => false

/-- The spellings of an infinite number and of no number. -/
def specials : List (List Char) :=
  [".inf", ".Inf", ".INF", "+.inf", "+.Inf", "+.INF", "-.inf", "-.Inf", "-.INF", ".nan", ".NaN",
    ".NAN"].map String.toList

/-- Does the scalar denote a number with a fraction? -/
def isReal (cs : List Char) : Bool := specials.contains cs || isDecimal (dropSign cs)

/-! ## Ambiguity -/

/-- The widest integers that a scalar can denote. -/
def isInteger (cs : List Char) : Bool :=
  (unsigned? (Nat.pow 2 128 - 1) cs).isSome || (negative? (-(Nat.pow 2 127 : Int)) cs).isSome

/-- Would the text be taken for something else if it were written plain? -/
def isAmbiguous (cs : List Char) : Bool :=
  cs.isEmpty || isNull cs || (flag? cs).isSome || isInteger cs || hasLeadingZero cs || isReal cs

end CellRecipe.Yaml.Scalar
