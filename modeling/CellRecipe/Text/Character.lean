/-!
# Characters

The classes of characters that the texts of a request are made of. Names, tags and numerals are made
of three classes of ASCII characters, and no character outside ASCII belongs to any of them. Blank
are the characters of the standard's `White_Space` property, which the zero width space and the byte
order mark do not have.

Blank characters may be stripped from the end of a text or from both ends.

## Main results

* `isBlank_of_between`, `isBlank_of_isDigit`: visible characters of ASCII are not blank.
* `getLast?_dropTrailingBlanks`, `dropTrailingBlanks_append`: what is left does not end in a blank
  character, and blank characters at the end do not matter.
* `stripped_iff`: what is left between the blank characters at both ends.
-/

namespace CellRecipe.Text

/-! ## ASCII classes -/

/-- Is the character one of the ten ASCII digits? -/
def isDigit (c : Char) : Bool := '0' ≤ c && c ≤ '9'

/-- Is the character a lower case ASCII letter? -/
def isLower (c : Char) : Bool := 'a' ≤ c && c ≤ 'z'

/-- Is the character an upper case ASCII letter? -/
def isUpper (c : Char) : Bool := 'A' ≤ c && c ≤ 'Z'

/-! ## Blank characters -/

/-- Is the character blank? -/
def isBlank (c : Char) : Bool :=
  let n := c.toNat
  (9 ≤ n && n ≤ 13) || n == 0x20 || n == 0x85 || n == 0xA0 || n == 0x1680
    || (0x2000 ≤ n && n ≤ 0x200A) || n == 0x2028 || n == 0x2029 || n == 0x202F || n == 0x205F
    || n == 0x3000

/-- The visible characters of ASCII stand between the blank and the delete character. -/
theorem isBlank_of_between {low high c : Char} (above : low ≤ c) (below : c ≤ high)
    (hlow : 33 ≤ low.toNat) (hhigh : high.toNat ≤ 126) : isBlank c = false := by
  rw [Char.le_def, UInt32.le_iff_toNat_le] at above below
  have above : low.toNat ≤ c.toNat := above
  have below : c.toNat ≤ high.toNat := below
  simp only [isBlank, Bool.or_eq_false_iff, Bool.and_eq_false_iff, decide_eq_false_iff_not,
    beq_eq_false_iff_ne]
  omega

theorem isBlank_of_isDigit {c : Char} (h : isDigit c = true) : isBlank c = false := by
  simp only [isDigit, Bool.and_eq_true, decide_eq_true_eq] at h
  exact isBlank_of_between h.1 h.2 (by decide) (by decide)

/-! ## Blank ends of a text -/

/-- The characters without the blank ones at the end. -/
def dropTrailingBlanks (cs : List Char) : List Char :=
  (cs.reverse.dropWhile isBlank).reverse

theorem dropWhile_append_of_all {p : Char → Bool} {a : List Char} (h : ∀ c ∈ a, p c = true)
    (b : List Char) : (a ++ b).dropWhile p = b.dropWhile p := by
  induction a with
  | nil => rfl
  | cons c rest ih =>
    rw [List.forall_mem_cons] at h
    rw [List.cons_append, List.dropWhile_cons_of_pos h.1, ih h.2]

/-- What is left does not end in a blank character. -/
theorem getLast?_dropTrailingBlanks {cs : List Char} {c : Char}
    (h : (dropTrailingBlanks cs).getLast? = some c) : isBlank c = false := by
  rw [dropTrailingBlanks, List.getLast?_reverse] at h
  have hhead := List.head?_dropWhile_not isBlank cs.reverse
  rw [h] at hhead
  simpa using hhead

/-- Blank characters at the end do not matter. -/
theorem dropTrailingBlanks_append {a b : List Char} (h : ∀ c ∈ b, isBlank c = true) :
    dropTrailingBlanks (a ++ b) = dropTrailingBlanks a := by
  rw [dropTrailingBlanks, List.reverse_append, dropWhile_append_of_all (by simpa using h),
    dropTrailingBlanks]

/-- The characters without the blank ones at both ends. -/
def trimChars (cs : List Char) : List Char :=
  dropTrailingBlanks (cs.dropWhile isBlank)

/-- `t` is `cs` without the blank characters at both ends: what stands around it is blank, and it
neither starts nor ends with a blank character. -/
structure Stripped (cs t : List Char) : Prop where
  around : ∃ before after, cs = before ++ t ++ after ∧ (∀ c ∈ before, isBlank c = true) ∧
    ∀ c ∈ after, isBlank c = true
  first : ∀ c, t.head? = some c → isBlank c = false
  last : ∀ c, t.getLast? = some c → isBlank c = false

/-- A text that neither starts nor ends with a blank character is stripped as it is. -/
theorem stripped_of_ends {cs : List Char} (first : ∀ c, cs.head? = some c → isBlank c = false)
    (last : ∀ c, cs.getLast? = some c → isBlank c = false) : Stripped cs cs where
  around := ⟨[], [], by simp, List.forall_mem_nil _, List.forall_mem_nil _⟩
  first := first
  last := last

/-- A text without blank characters is stripped as it is. -/
theorem stripped_of_not_blank {cs : List Char} (h : ∀ c ∈ cs, isBlank c = false) :
    Stripped cs cs := by
  apply stripped_of_ends
  · exact fun c hc => h c (List.mem_of_head? hc)
  · exact fun c hc => h c (List.mem_of_getLast? hc)

/-- What is left can be stripped once more, and stays as it is. -/
theorem Stripped.again {cs t : List Char} (h : Stripped cs t) : Stripped t t :=
  stripped_of_ends h.first h.last

theorem dropWhile_of_head {cs : List Char} (first : ∀ c, cs.head? = some c → isBlank c = false) :
    cs.dropWhile isBlank = cs := by
  cases cs with
  | nil => rfl
  | cons c rest => exact List.dropWhile_cons_of_neg (by simp [first c rfl])

theorem dropTrailingBlanks_of_last {cs : List Char}
    (last : ∀ c, cs.getLast? = some c → isBlank c = false) : dropTrailingBlanks cs = cs := by
  rw [dropTrailingBlanks, dropWhile_of_head (by simpa using last), List.reverse_reverse]

/-- What is dropped at the end is blank. -/
theorem exists_dropTrailingBlanks_append (cs : List Char) :
    ∃ after, cs = dropTrailingBlanks cs ++ after ∧ ∀ c ∈ after, isBlank c = true := by
  refine ⟨(cs.reverse.takeWhile isBlank).reverse, ?_, ?_⟩
  · rw [dropTrailingBlanks, ← List.reverse_append, List.takeWhile_append_dropWhile,
      List.reverse_reverse]
  · intro c hc
    exact List.all_eq_true.1 List.all_takeWhile c (List.mem_reverse.1 hc)

theorem stripped_trimChars (cs : List Char) : Stripped cs (trimChars cs) := by
  obtain ⟨after, hsplit, hafter⟩ := exists_dropTrailingBlanks_append (cs.dropWhile isBlank)
  refine ⟨⟨cs.takeWhile isBlank, after, ?_, ?_, hafter⟩, ?_, ?_⟩
  · rw [List.append_assoc, trimChars, ← hsplit, List.takeWhile_append_dropWhile]
  · exact List.all_eq_true.1 List.all_takeWhile
  · intro c hc
    have hhead := List.head?_dropWhile_not isBlank cs
    rw [hsplit, List.head?_append, show (dropTrailingBlanks _).head? = some c from hc] at hhead
    simpa using hhead
  · intro c hc
    exact getLast?_dropTrailingBlanks hc

/-- There is one way to strip a text. -/
theorem stripped_iff {cs t : List Char} : Stripped cs t ↔ trimChars cs = t := by
  constructor
  · intro h
    obtain ⟨before, after, rfl, hbefore, hafter⟩ := h.around
    rw [trimChars, List.append_assoc, dropWhile_append_of_all hbefore]
    cases t with
    | nil =>
      -- Everything is blank, so nothing is left for the end either.
      rw [List.nil_append, ← List.append_nil after, dropWhile_append_of_all hafter]
      rfl
    | cons c rest =>
      have hfirst : (c :: rest ++ after).dropWhile isBlank = c :: rest ++ after :=
        dropWhile_of_head fun d hd => h.first d hd
      rw [hfirst, dropTrailingBlanks_append hafter, dropTrailingBlanks_of_last h.last]
  · rintro rfl
    exact stripped_trimChars cs

/-- The text without the blank characters at its end. -/
def trimEnd (s : String) : String :=
  String.ofList (dropTrailingBlanks s.toList)

end CellRecipe.Text
