import CellRecipe.Text.Numeral
import Mathlib.Data.Nat.Digits.Defs

/-!
# What numerals denote

The readers of numerals compute a number digit by digit, from the first one on. Here a numeral has
the number that its digits have by their places.

## Main definitions

* `Text.placeValue`: the number of decimal digits.
* `Text.Unsigned`, `Text.Signed`: the numerals of a number, with the signs that they may have.

## Main results

* `Text.natural?_eq_some_iff_unsigned`, `Text.integer?_eq_some_iff_signed`: what the readers accept.
-/

namespace CellRecipe.Text

/-! ## Digits -/

/-- The number of decimal digits by their places, the last one being that of the ones. -/
def placeValue (digits : List Char) : Nat :=
  Nat.ofDigits 10 (digits.reverse.map fun c => c.toNat - '0'.toNat)

/-- Digit by digit from the first one, the number comes out that the digits have by their places. -/
theorem digitsValue_eq_placeValue (digits : List Char) :
    digitsValue digits = placeValue digits := by
  have hfold : ∀ ds : List Char, ds.foldr (fun c n => 10 * n + digitValue c) 0
      = Nat.ofDigits 10 (ds.map fun c => c.toNat - '0'.toNat) := by
    intro ds
    induction ds with
    | nil => rfl
    | cons c rest ih =>
        have hdigit : digitValue c = c.toNat - '0'.toNat := rfl
        rw [List.foldr_cons, ih, List.map_cons, Nat.ofDigits_cons, hdigit, Nat.add_comm]
  rw [digitsValue, digitsValueFrom, List.foldl_eq_foldr_reverse, placeValue, hfold]

theorem isDigit_iff {c : Char} : isDigit c = true ↔ '0' ≤ c ∧ c ≤ '9' := by
  simp [isDigit]

theorem digits?_eq_some_iff {cs : List Char} {n : Nat} :
    digits? cs = some n ↔ cs ≠ [] ∧ (∀ c ∈ cs, '0' ≤ c ∧ c ≤ '9') ∧ placeValue cs = n := by
  rw [← digitsValue_eq_placeValue, digits?]
  simp only [← isDigit_iff, ← List.all_eq_true]
  cases cs with
  | nil => simp
  | cons c rest => cases (c :: rest).all isDigit <;> simp

/-- A numeral has one plus sign at most. -/
theorem natural?_eq_some_iff {cs : List Char} {n : Nat} :
    natural? cs = some n ↔ ∃ sign digits, cs = sign ++ digits ∧ (sign = [] ∨ sign = ['+']) ∧
      digits ≠ [] ∧ (∀ c ∈ digits, '0' ≤ c ∧ c ≤ '9') ∧ placeValue digits = n := by
  rw [natural?, digits?_eq_some_iff]
  constructor
  · rintro ⟨nonempty, each, value⟩
    have hdrop : cs = dropPlus cs ∨ cs = '+' :: dropPlus cs := by
      unfold dropPlus
      split
      · exact .inr rfl
      · exact .inl rfl
    rcases hdrop with h | h
    · exact ⟨[], dropPlus cs, h, .inl rfl, nonempty, each, value⟩
    · exact ⟨['+'], dropPlus cs, h, .inr rfl, nonempty, each, value⟩
  · rintro ⟨sign, digits, rfl, rfl | rfl, nonempty, each, value⟩
    · -- A digit is no sign, so nothing is dropped.
      have hdrop : dropPlus ([] ++ digits) = digits := by
        unfold dropPlus
        split
        · next rest h =>
            obtain rfl : digits = '+' :: rest := h
            exact absurd (each '+' List.mem_cons_self) (by decide)
        · rfl
      rw [hdrop]
      exact ⟨nonempty, each, value⟩
    · exact ⟨nonempty, each, value⟩

/-! ## Numerals -/

/-- One or more decimal digits. -/
structure Digits (cs : List Char) : Prop where
  nonempty : cs ≠ []
  each : ∀ c ∈ cs, '0' ≤ c ∧ c ≤ '9'

theorem Digits.of_all {cs : List Char} (nonempty : cs ≠ []) (h : cs.all isDigit = true) :
    Digits cs :=
  ⟨nonempty, fun c hc => isDigit_iff.1 (List.all_eq_true.1 h c hc)⟩

/-- The numerals of a natural number: digits, and perhaps a plus sign before them. -/
inductive Unsigned : List Char → Nat → Prop
  | bare {ds : List Char} (digits : Digits ds) : Unsigned ds (placeValue ds)
  | plus {ds : List Char} (digits : Digits ds) : Unsigned ('+' :: ds) (placeValue ds)

/-- The numerals of an integer: those of a natural number, and digits with a minus sign. -/
inductive Signed : List Char → Int → Prop
  | unsigned {cs : List Char} {n : Nat} (numeral : Unsigned cs n) : Signed cs n
  | minus {ds : List Char} (digits : Digits ds) : Signed ('-' :: ds) (-(placeValue ds : Int))

theorem natural?_eq_some_iff_unsigned {cs : List Char} {n : Nat} :
    natural? cs = some n ↔ Unsigned cs n := by
  rw [natural?_eq_some_iff]
  constructor
  · rintro ⟨sign, digits, rfl, rfl | rfl, nonempty, each, rfl⟩
    · exact .bare ⟨nonempty, each⟩
    · exact .plus ⟨nonempty, each⟩
  · rintro (digits | digits)
    · exact ⟨[], cs, rfl, .inl rfl, digits.nonempty, digits.each, rfl⟩
    · exact ⟨['+'], _, rfl, .inr rfl, digits.nonempty, digits.each, rfl⟩

/-- A minus sign is for integers only. -/
theorem not_unsigned_minus {ds : List Char} {n : Nat} : ¬ Unsigned ('-' :: ds) n := by
  rintro (digits | digits)
  exact absurd (digits.each '-' List.mem_cons_self) (by decide)

theorem integer?_minus {ds : List Char} :
    integer? ('-' :: ds) = (digits? ds).map fun n => -(Int.ofNat n) := by
  have hread : integer? ('-' :: ds)
      = ((digits? ds).bind fun n => some (Int.ofNat n)).map fun n => -n := rfl
  rw [hread]
  cases digits? ds <;> rfl

theorem integer?_of_ne_minus {cs : List Char} (h : ∀ ds, cs ≠ '-' :: ds) :
    integer? cs = (natural? cs).map Int.ofNat := by
  unfold integer?
  split
  · next ds => exact absurd rfl (h ds)
  · cases natural? cs <;> rfl

theorem integer?_eq_some_iff_signed {cs : List Char} {n : Int} :
    integer? cs = some n ↔ Signed cs n := by
  constructor
  · intro h
    by_cases hsign : ∃ ds, cs = '-' :: ds
    · obtain ⟨ds, rfl⟩ := hsign
      rw [integer?_minus] at h
      obtain ⟨m, hread, rfl⟩ := Option.map_eq_some_iff.1 h
      obtain ⟨nonempty, each, rfl⟩ := digits?_eq_some_iff.1 hread
      exact .minus ⟨nonempty, each⟩
    · rw [integer?_of_ne_minus (not_exists.1 hsign)] at h
      obtain ⟨m, hread, rfl⟩ := Option.map_eq_some_iff.1 h
      exact .unsigned (natural?_eq_some_iff_unsigned.1 hread)
  · rintro (numeral | digits)
    · have hsign : ∀ ds, cs ≠ '-' :: ds := by
        rintro ds rfl
        exact not_unsigned_minus numeral
      rw [integer?_of_ne_minus hsign, natural?_eq_some_iff_unsigned.2 numeral]
      rfl
    · rw [integer?_minus, digits?_eq_some_iff.2 ⟨digits.nonempty, digits.each, rfl⟩]
      rfl

end CellRecipe.Text
