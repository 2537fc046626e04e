import CellRecipe.Text.Character

/-!
# Decimal numerals

Reading runs of ASCII digits and signed numerals. A numeral is one or more digits, with any number
of leading zeros; what signs and which range a reader accepts is its own decision.

## Main definitions

* `digits?`: one or more digits.
* `cappedValue`: the number that digits denote, up to a limit.
* `natural?`: a numeral with an optional plus sign.
* `integer?`: a numeral with an optional plus or minus sign.
* `hexDigitValue?`, `hexDigit`: hexadecimal digits.

## Main results

* `cappedValue_eq_min`: a limit changes nothing below it.
* `digits?_toDigits`: a number can be read from its decimal digits.
-/

namespace CellRecipe.Text

/-- The value of a digit. -/
def digitValue (c : Char) : Nat := c.toNat - 48

/-- The number that the digits denote after `start` has been read. -/
def digitsValueFrom (start : Nat) (cs : List Char) : Nat :=
  cs.foldl (fun n c => 10 * n + digitValue c) start

/-- The number that the digits denote. -/
def digitsValue (cs : List Char) : Nat := digitsValueFrom 0 cs

/-- The number that the digits denote, or the limit if that is less; long runs of digits are read as
quickly as they are written. -/
def cappedValue (limit : Nat) (cs : List Char) : Nat :=
  cs.foldl (fun n c => min limit (10 * n + digitValue c)) 0

private theorem foldl_min_eq (limit : Nat) (cs : List Char) (n : Nat) :
    cs.foldl (fun n c => min limit (10 * n + digitValue c)) (min limit n)
      = min limit (digitsValueFrom n cs) := by
  induction cs generalizing n with
  | nil => rfl
  | cons c rest ih =>
    have step : min limit (10 * min limit n + digitValue c)
        = min limit (10 * n + digitValue c) := by omega
    rw [List.foldl_cons, step, ih]
    rfl

theorem cappedValue_eq_min (limit : Nat) (cs : List Char) :
    cappedValue limit cs = min limit (digitsValue cs) := by
  rw [cappedValue, digitsValue, ← foldl_min_eq, Nat.min_zero]

/-- The number that one or more digits denote. -/
def digits? (cs : List Char) : Option Nat :=
  if !cs.isEmpty && cs.all isDigit then some (digitsValue cs) else none

theorem isDigit_of_mem_toDigits {n : Nat} {c : Char} (h : c ∈ Nat.toDigits 10 n) :
    isDigit c = true := by
  have hdigit : c.isDigit = true := Nat.isDigit_of_mem_toDigits (by decide) (by decide) h
  simp only [Char.isDigit, Bool.and_eq_true, decide_eq_true_eq] at hdigit
  simp only [isDigit, Bool.and_eq_true, decide_eq_true_eq]
  exact hdigit

/-- A number can be read from its decimal digits. -/
theorem digits?_toDigits (n : Nat) : digits? (Nat.toDigits 10 n) = some n := by
  have hne : Nat.toDigits 10 n ≠ [] := Nat.toDigits_ne_nil
  have hall : (Nat.toDigits 10 n).all isDigit = true :=
    List.all_eq_true.2 fun c hc => isDigit_of_mem_toDigits hc
  have hvalue : digitsValue (Nat.toDigits 10 n) = n :=
    Nat.ofDigitChars_toDigits (by decide) (by decide)
  rw [digits?, List.isEmpty_eq_false_iff.2 hne, hall, hvalue]
  rfl

/-- The characters without one plus sign at their head. -/
def dropPlus : List Char → List Char
  | '+' :: rest => rest
  | cs => cs

/-- A numeral with an optional plus sign. -/
def natural? (cs : List Char) : Option Nat := digits? (dropPlus cs)

/-- A numeral with an optional sign. -/
def integer? : List Char → Option Int
  | '-' :: rest => (digits? rest).map fun n => -(n : Int)
  | cs => (natural? cs).map fun n => (n : Int)

/-- The value of a hexadecimal digit, in either case. -/
def hexDigitValue? (c : Char) : Option Nat :=
  if isDigit c then some (digitValue c)
  else if 'a' ≤ c && c ≤ 'f' then some (c.toNat - 87)
  else if 'A' ≤ c && c ≤ 'F' then some (c.toNat - 55)
  else none

/-- The lower case hexadecimal digit of the number's last four bits. -/
def hexDigit (n : Nat) : Char := (Nat.toDigits 16 (n % 16)).headD '0'

theorem hexDigit_mem (n : Nat) : hexDigit n ∈ "0123456789abcdef".toList := by
  have hall : ∀ k < 16, (Nat.toDigits 16 k).headD '0' ∈ "0123456789abcdef".toList := by decide
  exact hall (n % 16) (Nat.mod_lt n (by decide))

end CellRecipe.Text
