import CellRecipe.Json.Printer
import CellRecipe.Json.Reader
import Mathlib.Data.List.TakeDrop
import Mathlib.Data.List.TakeWhile

/-!
# Numbers in JSON text

A number has no closing mark of its own: it ends where what follows cannot be a part of it. So a
number that is read from a text of its own is read in the same way from any text that goes on with a
comma or with a bracket.

Whether the text of a number denotes the number again is a matter of the number. It does for the
integers of 64 bits. The reader rounds the digits of a double before it scales them, so not every
double comes back.

## Main definitions

* `Json.Ends`: what may follow a number.
* `Number.ReadsBack`: numbers that are denoted by their text.

## Main results

* `Json.literal_append`: what follows a number does not matter to it.
* `Number.readsBack_whole`: integers of 64 bits are denoted by their text.
-/

namespace CellRecipe

namespace Json

/-! ## What follows a number -/

/-- What may follow a value in compact text: nothing more, or a mark of what is open around it. -/
def Ends (after : List Char) : Prop := ∀ c ∈ after.head?, c ∈ [',', ']', '\x7d']

theorem ends_nil : Ends [] := nofun

theorem ends_cons {c : Char} (rest : List Char) (h : c ∈ [',', ']', '\x7d']) :
    Ends (c :: rest) := by
  intro d hd
  obtain rfl := Option.some.inj hd
  exact h

theorem Ends.head {after : List Char} (h : Ends after) {p : Char → Bool}
    (hp : ([',', ']', '\x7d'].all fun c => !p c) = true) : ∀ c ∈ after.head?, p c = false := by
  intro c hc
  have hmark := List.all_eq_true.1 hp c (h c hc)
  simpa using hmark

/-- What the head of the rest has not is not taken from it. -/
theorem span_append {p : Char → Bool} (cs : List Char) {after : List Char}
    (h : ∀ c ∈ after.head?, p c = false) :
    (cs ++ after).span p = ((cs.span p).1, (cs.span p).2 ++ after) := by
  simp only [List.span_eq_takeWhile_dropWhile]
  induction cs with
  | nil =>
      cases after with
      | nil => rfl
      | cons c rest =>
          have hc := h c rfl
          simp [hc]
  | cons c rest ih =>
      cases hc : p c
      · simp [hc]
      · simp only [List.cons_append, List.takeWhile_cons_of_pos hc, List.dropWhile_cons_of_pos hc,
          Prod.mk.injEq] at ih ⊢
        exact ⟨congrArg _ ih.1, ih.2⟩

variable {cs rest after : List Char}

theorem digits1_append {ds : List Char} (ha : Ends after) (h : digits1 cs = some (ds, rest)) :
    digits1 (cs ++ after) = some (ds, rest ++ after) := by
  have hspan := span_append cs (ha.head (p := Text.isDigit) rfl)
  unfold digits1 at h ⊢
  rw [hspan]
  simp only at h ⊢
  split at h
  · cases h
  · next hne =>
      obtain ⟨rfl, rfl⟩ := Prod.mk.inj (Option.some.inj h)
      rw [if_neg hne]

/-- Digits before the point are digits of which the first one is no zero, unless it is the only
one. -/
theorem wholeDigits_eq_some_iff {ds : List Char} :
    wholeDigits cs = some (ds, rest)
      ↔ digits1 cs = some (ds, rest) ∧ ∀ tail, ds = '0' :: tail → tail = [] := by
  unfold wholeDigits
  split
  · next hread =>
    rw [hread]
    constructor
    · rintro h
      obtain ⟨rfl, rfl⟩ := Prod.mk.inj (Option.some.inj h)
      exact ⟨rfl, fun tail h => (List.cons.inj h).2.symm⟩
    · exact fun h => h.1
  · next tail rest' hne hread =>
    rw [hread]
    refine iff_of_false nofun ?_
    rintro ⟨h, hzero⟩
    obtain ⟨rfl, rfl⟩ := Prod.mk.inj (Option.some.inj h)
    exact hne (hzero _ rfl)
  · next hone hzero =>
    refine ⟨fun h => ⟨h, ?_⟩, fun h => h.1⟩
    rintro tail rfl
    exact absurd h (hzero _ _)

theorem wholeDigits_append {ds : List Char} (ha : Ends after)
    (h : wholeDigits cs = some (ds, rest)) :
    wholeDigits (cs ++ after) = some (ds, rest ++ after) := by
  rw [wholeDigits_eq_some_iff] at h ⊢
  exact ⟨digits1_append ha h.1, h.2⟩

theorem fractionDigits_append {ds : List Char} (ha : Ends after)
    (h : fractionDigits cs = some (ds, rest)) :
    fractionDigits (cs ++ after) = some (ds, rest ++ after) := by
  have hnone : ∀ cs : List Char, (∀ c ∈ cs.head?, (c == '.') = false) →
      fractionDigits cs = some ([], cs) := by
    intro cs hcs
    unfold fractionDigits
    split
    · exact absurd (hcs '.' rfl) (by decide)
    · rfl
  cases cs with
  | nil =>
      obtain ⟨rfl, rfl⟩ := Prod.mk.inj (Option.some.inj h)
      exact hnone after (ha.head rfl)
  | cons c cs =>
      by_cases hc : c = '.'
      · subst hc
        exact digits1_append ha h
      · have hpoint : ∀ rest, ∀ d ∈ (c :: rest).head?, (d == '.') = false := by
          intro rest d hd
          obtain rfl := Option.some.inj hd
          simpa using hc
        rw [hnone _ (hpoint cs)] at h
        obtain ⟨rfl, rfl⟩ := Prod.mk.inj (Option.some.inj h)
        exact hnone _ (hpoint _)

/-- The sign of an exponent and what follows it. -/
def powerSign : List Char → Bool × List Char
  | '-' :: rest => (true, rest)
  | '+' :: rest => (false, rest)
  | rest => (false, rest)

theorem exponentDigits_cons (c : Char) (cs : List Char) :
    exponentDigits (c :: cs) =
      if c = 'e' || c = 'E' then
        (digits1 (powerSign cs).2).map fun found => (some ((powerSign cs).1, found.1), found.2)
      else some (none, c :: cs) := rfl

theorem powerSign_append {cs : List Char} (hcs : cs ≠ []) :
    powerSign (cs ++ after) = ((powerSign cs).1, (powerSign cs).2 ++ after) := by
  cases cs with
  | nil => exact absurd rfl hcs
  | cons c cs =>
    unfold powerSign
    split
    · next heq =>
      obtain ⟨rfl, rfl⟩ := List.cons.inj heq
      rfl
    · next heq =>
      obtain ⟨rfl, rfl⟩ := List.cons.inj heq
      rfl
    · next hm hp =>
      split
      · next heq =>
        obtain ⟨rfl, rfl⟩ := List.cons.inj heq
        exact absurd rfl (hm _)
      · next heq =>
        obtain ⟨rfl, rfl⟩ := List.cons.inj heq
        exact absurd rfl (hp _)
      · rfl

theorem exponentDigits_append {power : Option (Bool × List Char)} (ha : Ends after)
    (h : exponentDigits cs = some (power, rest)) :
    exponentDigits (cs ++ after) = some (power, rest ++ after) := by
  cases cs with
  | nil =>
      obtain ⟨rfl, rfl⟩ := Prod.mk.inj (Option.some.inj h)
      cases after with
      | nil => rfl
      | cons c rest =>
          have hmark := ha.head (p := fun c => c = 'e' || c = 'E') rfl c rfl
          rw [List.nil_append, exponentDigits_cons, if_neg (Bool.eq_false_iff.1 hmark)]
  | cons c cs =>
      rw [List.cons_append, exponentDigits_cons] at *
      split at h
      · next hc =>
          obtain ⟨found, hfound, heq⟩ := Option.map_eq_some_iff.1 h
          obtain ⟨rfl, rfl⟩ := Prod.mk.inj heq
          have hcs : cs ≠ [] := by
            rintro rfl
            cases hfound
          rw [if_pos hc, powerSign_append hcs, digits1_append ha hfound]
          rfl
      · next hc =>
          obtain ⟨rfl, rfl⟩ := Prod.mk.inj (Option.some.inj h)
          rw [if_neg hc]
          rfl

/-- The sign of a number and what follows it. -/
def minusSign : List Char → Bool × List Char
  | '-' :: rest => (true, rest)
  | cs => (false, cs)

theorem literal_eq (cs : List Char) : literal cs = do
    let (whole, rest) ← wholeDigits (minusSign cs).2
    let (fraction, rest) ← fractionDigits rest
    let (power, rest) ← exponentDigits rest
    return (⟨(minusSign cs).1, whole, fraction, power⟩, rest) := rfl

theorem minusSign_of_ne {c : Char} (h : c ≠ '-') (cs : List Char) :
    minusSign (c :: cs) = (false, c :: cs) := by
  unfold minusSign
  split
  · next heq => exact absurd (List.cons.inj heq).1 h
  · rfl

theorem minusSign_append {cs : List Char} (hcs : cs ≠ []) :
    minusSign (cs ++ after) = ((minusSign cs).1, (minusSign cs).2 ++ after) := by
  cases cs with
  | nil => exact absurd rfl hcs
  | cons c cs =>
      by_cases hc : c = '-'
      · subst hc
        rfl
      · rw [List.cons_append, minusSign_of_ne hc, minusSign_of_ne hc]
        rfl

theorem literal_append {l : Literal} (ha : Ends after) (h : literal cs = some (l, rest)) :
    literal (cs ++ after) = some (l, rest ++ after) := by
  rw [literal_eq] at h ⊢
  obtain ⟨⟨whole, cs1⟩, hwhole, h⟩ := Option.bind_eq_some_iff.1 h
  obtain ⟨⟨fraction, cs2⟩, hfraction, h⟩ := Option.bind_eq_some_iff.1 h
  obtain ⟨⟨power, cs3⟩, hpower, h⟩ := Option.bind_eq_some_iff.1 h
  obtain ⟨rfl, rfl⟩ := Prod.mk.inj (Option.some.inj h)
  have hcs : cs ≠ [] := by
    rintro rfl
    cases hwhole
  rw [minusSign_append hcs, wholeDigits_append ha hwhole]
  simp only [Option.bind_eq_bind, Option.bind_some]
  rw [fractionDigits_append ha hfraction, Option.bind_some, exponentDigits_append ha hpower]
  rfl

/-- A number starts with its sign or with a digit. -/
theorem head_of_literal {l : Literal} (h : literal cs = some (l, rest)) :
    ∃ c cs', cs = c :: cs' ∧ (c = '-' ∨ Text.isDigit c = true) := by
  cases cs with
  | nil => cases h
  | cons c cs =>
      refine ⟨c, cs, rfl, or_iff_not_imp_left.2 fun hc => ?_⟩
      by_contra hdigit
      have hdigits : digits1 (c :: cs) = none := by
        unfold digits1
        rw [List.span_eq_takeWhile_dropWhile, List.takeWhile_cons_of_neg hdigit]
        rfl
      rw [literal_eq, minusSign_of_ne hc] at h
      obtain ⟨⟨whole, rest'⟩, hwhole, -⟩ := Option.bind_eq_some_iff.1 h
      rw [wholeDigits_eq_some_iff, hdigits] at hwhole
      cases hwhole.1

/-! ## Numbers that can be read back -/

/-- Only the digits of zero start with a zero. -/
theorem eq_nil_of_toDigits_eq {n : Nat} {ds : List Char} (h : Nat.toDigits 10 n = '0' :: ds) :
    ds = [] := by
  induction n using Nat.strongRecOn generalizing ds with
  | ind n ih =>
    by_cases hn : n < 10
    · rw [Nat.toDigits_of_lt_base hn] at h
      exact (List.cons.inj h).2.symm
    · rw [Nat.toDigits_of_base_le (by decide) (by omega)] at h
      cases hlead : Nat.toDigits 10 (n / 10) with
      | nil => exact absurd hlead Nat.toDigits_ne_nil
      | cons d lead =>
        rw [hlead, List.cons_append] at h
        obtain ⟨rfl, rfl⟩ := List.cons.inj h
        obtain rfl := ih (n / 10) (by omega) hlead
        have hzero := Text.digits?_toDigits (n / 10)
        rw [hlead] at hzero
        have : 0 = n / 10 := Option.some.inj hzero
        omega

theorem wholeDigits_toDigits (n : Nat) :
    wholeDigits (Nat.toDigits 10 n) = some (Nat.toDigits 10 n, []) := by
  have hall : ∀ c ∈ Nat.toDigits 10 n, Text.isDigit c = true :=
    fun c hc => Text.isDigit_of_mem_toDigits hc
  rw [wholeDigits_eq_some_iff]
  refine ⟨?_, fun tail h => eq_nil_of_toDigits_eq h⟩
  unfold digits1
  rw [List.span_eq_takeWhile_dropWhile, List.takeWhile_eq_self_iff.2 hall,
    List.dropWhile_eq_nil_iff.2 hall]
  exact if_neg (by simp [Nat.toDigits_ne_nil])

/-- Digits have no sign. -/
theorem minusSign_toDigits (n : Nat) :
    minusSign (Nat.toDigits 10 n) = (false, Nat.toDigits 10 n) := by
  cases h : Nat.toDigits 10 n with
  | nil => exact absurd h Nat.toDigits_ne_nil
  | cons c cs =>
      have hdigit : Text.isDigit c = true :=
        Text.isDigit_of_mem_toDigits (h ▸ List.mem_cons_self)
      refine minusSign_of_ne ?_ cs
      rintro rfl
      cases hdigit

/-- The digits of a number are a number literal, perhaps with a minus sign before them. -/
theorem literal_of_digits {cs : List Char} {n : Nat} (h : (minusSign cs).2 = Nat.toDigits 10 n) :
    literal cs = some (⟨(minusSign cs).1, Nat.toDigits 10 n, [], none⟩, []) := by
  rw [literal_eq, h, wholeDigits_toDigits]
  rfl

theorem integer?_of_digits {negative : Bool} {n : Nat} (hn : n ≤ maxWord)
    (hnegative : negative = true → 0 < n ∧ Int64.minValue.toInt ≤ -(n : Int)) :
    (⟨negative, Nat.toDigits 10 n, [], none⟩ : Literal).integer?
      = some (if negative then -(n : Int) else n) := by
  have hvalue : Text.digitsValue (Nat.toDigits 10 n) = n :=
    Nat.ofDigitChars_toDigits (by decide) (by decide)
  have hcapped : Text.cappedValue UInt64.size (Nat.toDigits 10 n) = n := by
    rw [Text.cappedValue_eq_min, hvalue, Nat.min_eq_right]
    exact Nat.le_trans hn (Nat.sub_le _ _)
  unfold Literal.integer?
  rw [hcapped]
  cases negative with
  | true => exact if_pos (hnegative rfl)
  | false => exact if_pos hn

end Json

namespace Number

open Json

/-- The text of the number is a number literal that denotes it. -/
def ReadsBack (n : Number) : Prop :=
  ∃ l, literal n.text.toList = some (l, []) ∧ l.number? = some n

/-- Integers of 64 bits can be read back. -/
theorem readsBack_whole {n : Int} (low : Int64.minValue.toInt ≤ n) (high : n ≤ maxWord) :
    (Number.whole n).ReadsBack := by
  have hsome : ∀ l : Literal, l.integer? = some n → l.number? = some (.whole n) := by
    intro l hl
    rw [Literal.number?, hl]
  cases n with
  | ofNat k =>
    have htext : (Number.whole (Int.ofNat k)).text.toList = Nat.toDigits 10 k := Nat.toList_repr
    have hread : literal (Nat.toDigits 10 k) = some (⟨false, Nat.toDigits 10 k, [], none⟩, []) := by
      rw [literal_of_digits (congrArg Prod.snd (minusSign_toDigits k)), minusSign_toDigits]
    rw [Number.ReadsBack, htext]
    exact ⟨_, hread, hsome _ (integer?_of_digits (Int.ofNat_le.1 high) fun h => by cases h)⟩
  | negSucc k =>
    have htext : (Number.whole (Int.negSucc k)).text.toList = '-' :: Nat.toDigits 10 (k + 1) := by
      have hminus : (Number.whole (Int.negSucc k)).text = "-" ++ (k + 1).repr := rfl
      rw [hminus, String.toList_append, Nat.toList_repr]
      rfl
    have hread : literal ('-' :: Nat.toDigits 10 (k + 1))
        = some (⟨true, Nat.toDigits 10 (k + 1), [], none⟩, []) := literal_of_digits rfl
    rw [Number.ReadsBack, htext]
    refine ⟨_, hread, hsome _ (integer?_of_digits ?_ fun _ => ⟨k.succ_pos, low⟩)⟩
    have hlow : Int64.minValue.toInt = -9223372036854775808 := by decide
    have hhigh : maxWord = 18446744073709551615 := by decide
    omega

end Number

end CellRecipe
