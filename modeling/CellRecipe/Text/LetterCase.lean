import CellRecipe.Text.LetterCase.Table

/-!
# Lower and upper case of a text

Case mapping of whole texts with the full rules of the character standard: a character may become
several (`ß` becomes `SS`, `İ` becomes `i` with a dot above), and a capital sigma becomes `ς` at the
end of a word and `σ` elsewhere.

ASCII letters are mapped by `Char.toLower` and `Char.toUpper`; every other character is looked up in
`LetterCase.Table`.

## Main definitions

* `lower`, `upper`: the case mappings of a text.
* `LetterCase.endsWord`: the rule for a sigma at the end of a word.

## Main results

* `lower_toLower`: lower case does not hang on the case of ASCII letters.
-/

namespace CellRecipe.Text

namespace LetterCase

/-- The capital sigma, the one character whose lower case form hangs on its neighbours. -/
def capitalSigma : Char := 'Σ'

/-- Lower case form of a character that stands alone. -/
def lowerChar (c : Char) : List Char :=
  if c.toNat < 128 then [c.toLower]
  else if c = 'İ' then ['i', '\u0307']
  else [Char.ofNat (mapped lowering c.toNat)]

/-- Upper case form of a character. -/
def upperChar (c : Char) : List Char :=
  if c.toNat < 128 then [c.toUpper]
  else match expansions.lookup c.toNat with
    | some form => form.map Char.ofNat
    | none => [Char.ofNat (mapped raising c.toNat)]

/-- Is the first character that is not passed over one that has case? -/
def meetsCased (cs : List Char) : Bool :=
  match cs.dropWhile (fun c => inRanges ignorableRanges c.toNat) with
  | c :: _ => inRanges casedRanges c.toNat
  | [] => false

/-- A capital sigma ends a word when a letter stands before it and none after it. `before` is the
text to its left, nearest character first. -/
def endsWord (before after : List Char) : Bool :=
  meetsCased before && !meetsCased after

/-- Lower case form of a text whose left context is `before`, nearest character first; the result
is collected in `done`, last character first. -/
def lowerFrom (before done : List Char) : List Char → List Char
  | [] => done.reverse
  | c :: rest =>
    let form :=
      if c = capitalSigma then [if endsWord before rest then 'ς' else 'σ'] else lowerChar c
    lowerFrom (c :: before) (form.reverse ++ done) rest

/-! ### ASCII letters -/

/-- Lower case of an ASCII letter, by its place in the alphabet. Every other character stays. -/
theorem toLower_cases (c : Char) :
    c.toLower = c ∨ ∃ k < 26, c.toNat = 65 + k ∧ c.toLower.toNat = 97 + k := by
  unfold Char.toLower
  split
  · next h =>
    right
    have low : 65 ≤ c.toNat := UInt32.le_iff_toNat_le.1 h.1
    have high : c.toNat ≤ 90 := UInt32.le_iff_toNat_le.1 h.2
    have hadd : (c.val + ('a'.val - 'A'.val)).toNat = c.toNat + 32 := by
      rw [UInt32.toNat_add]
      show (c.toNat + 32) % 2 ^ 32 = c.toNat + 32
      omega
    refine ⟨c.toNat - 65, by omega, by omega, ?_⟩
    show (c.val + ('a'.val - 'A'.val)).toNat = 97 + (c.toNat - 65)
    omega
  · exact .inl rfl

/-- Neither property of characters tells the two forms of an ASCII letter apart. -/
theorem inRanges_letter : ∀ k < 26,
    inRanges ignorableRanges (97 + k) = inRanges ignorableRanges (65 + k) ∧
    inRanges casedRanges (97 + k) = inRanges casedRanges (65 + k) := by
  decide +kernel

theorem inRanges_toLower (c : Char) :
    inRanges ignorableRanges c.toLower.toNat = inRanges ignorableRanges c.toNat ∧
    inRanges casedRanges c.toLower.toNat = inRanges casedRanges c.toNat := by
  rcases toLower_cases c with h | ⟨k, hk, hupper, hlower⟩
  · rw [h]
    exact ⟨rfl, rfl⟩
  · rw [hupper, hlower]
    exact inRanges_letter k hk

theorem lowerChar_toLower (c : Char) : lowerChar c.toLower = lowerChar c := by
  rcases toLower_cases c with h | ⟨k, hk, hupper, hlower⟩
  · rw [h]
  · have hstays : c.toLower.toLower = c.toLower := by
      rcases toLower_cases c.toLower with h | ⟨j, hj, hagain, -⟩
      · exact h
      · omega
    unfold lowerChar
    rw [if_pos (by omega), if_pos (by omega), hstays]

/-- The first character that is not passed over is the same one in either case. -/
theorem meetsCased_map_toLower (cs : List Char) :
    meetsCased (cs.map Char.toLower) = meetsCased cs := by
  unfold meetsCased
  induction cs with
  | nil => rfl
  | cons c rest ih =>
    obtain ⟨ignorable, cased⟩ := inRanges_toLower c
    rw [List.map_cons, List.dropWhile_cons, List.dropWhile_cons, ignorable]
    by_cases h : inRanges ignorableRanges c.toNat = true
    · rw [if_pos h, if_pos h]
      exact ih
    · rw [if_neg h, if_neg h]
      exact cased

theorem toLower_eq_capitalSigma {c : Char} : c.toLower = capitalSigma ↔ c = capitalSigma := by
  rcases toLower_cases c with h | ⟨k, hk, hupper, hlower⟩
  · rw [h]
  · -- A sigma is no ASCII letter, in neither form.
    have hsigma : capitalSigma.toNat = 931 := rfl
    constructor
    · intro h
      rw [h] at hlower
      omega
    · rintro rfl
      omega

/-- The characters of a text and those to its left may have their ASCII letters in either case. -/
theorem lowerFrom_map_toLower (before done cs : List Char) :
    lowerFrom (before.map Char.toLower) done (cs.map Char.toLower) = lowerFrom before done cs := by
  induction cs generalizing before done with
  | nil => rfl
  | cons c rest ih =>
    have hends : endsWord (before.map Char.toLower) (rest.map Char.toLower)
        = endsWord before rest := by
      rw [endsWord, meetsCased_map_toLower, meetsCased_map_toLower, endsWord]
    have hbefore : c.toLower :: before.map Char.toLower = (c :: before).map Char.toLower := rfl
    rw [List.map_cons, lowerFrom, lowerFrom, hends, hbefore, ih]
    simp only [toLower_eq_capitalSigma, lowerChar_toLower]

end LetterCase

/-- The text in lower case. -/
def lower (s : String) : String :=
  String.ofList (LetterCase.lowerFrom [] [] s.toList)

/-- The lower case of ASCII, letter by letter. -/
theorem toList_toLower (s : String) : s.toLower.toList = s.toList.map Char.toLower :=
  String.toList_map

/-- Lower case does not hang on the case of ASCII letters, wherever they stand. -/
theorem lower_toLower (s : String) : lower s.toLower = lower s := by
  rw [lower, toList_toLower]
  exact congrArg String.ofList (LetterCase.lowerFrom_map_toLower [] [] s.toList)

/-- The text in upper case. -/
def upper (s : String) : String :=
  String.ofList (s.toList.flatMap LetterCase.upperChar)

end CellRecipe.Text
