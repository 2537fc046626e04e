/-!
# Splitting characters

Cutting a list of characters at a separator: at its first occurrence, at its last one, or at all of
them. The separator itself belongs to no part.

## Main results

* `splitFirst_eq_some_iff`, `splitFirst_eq_none`: a cut at the first separator.
* `append_cons_inj`: a text is cut at its first separator in one way.
* `splitLast_eq_some_iff`, `splitLast_eq_none`: a cut at the last separator.
* `intercalate_splitAll`: the parts joined by the separator are what was split.
* `not_mem_of_mem_splitAll`: no part holds the separator.
* `splitAll_append_cons`, `splitAll_of_not_mem`: the parts one by one.
* `splitAll_intercalate_eq_flatMap`: the parts of joined parts.
* `splitAll_intercalate`: joining parts by a separator that none of them holds can be undone.
* `forall_mem_intercalate`: what is made of parts and separators.
* `hasScheme_iff`: a scheme mark is three characters next to each other.
-/

namespace CellRecipe.Text

/-! ## One cut -/

/-- The characters before and after the first separator. -/
def splitFirst (sep : Char) (cs : List Char) : Option (List Char × List Char) :=
  match cs.dropWhile (· != sep) with
  | _ :: after => some (cs.takeWhile (· != sep), after)
  | [] => none

/-- The characters before and after the last separator. -/
def splitLast (sep : Char) (cs : List Char) : Option (List Char × List Char) :=
  (splitFirst sep cs.reverse).map fun p => (p.2.reverse, p.1.reverse)

theorem splitFirst_nil (sep : Char) : splitFirst sep [] = none := rfl

theorem splitFirst_cons (sep c : Char) (rest : List Char) :
    splitFirst sep (c :: rest)
      = if c = sep then some ([], rest)
        else (splitFirst sep rest).map fun p => (c :: p.1, p.2) := by
  simp only [splitFirst, List.takeWhile_cons, List.dropWhile_cons]
  by_cases h : c = sep
  · simp [h]
  · have e : (c != sep) = true := by simpa using h
    simp only [e, if_true, if_neg h]
    cases rest.dropWhile (· != sep) <;> rfl

theorem splitFirst_append {sep : Char} {a : List Char} (h : sep ∉ a) (b : List Char) :
    splitFirst sep (a ++ sep :: b) = some (a, b) := by
  induction a with
  | nil => simp [splitFirst_cons]
  | cons c rest ih =>
    simp only [List.mem_cons, not_or] at h
    have e : ¬ c = sep := fun e => h.1 e.symm
    simp [splitFirst_cons, e, ih h.2]

/-- Two texts that are joined at their first separators are the same only part by part. -/
theorem append_cons_inj {sep : Char} {a a' b b' : List Char} (ha : sep ∉ a) (ha' : sep ∉ a') :
    a ++ sep :: b = a' ++ sep :: b' ↔ a = a' ∧ b = b' := by
  constructor
  · intro h
    have hcut : splitFirst sep (a ++ sep :: b) = some (a', b') := by
      rw [h, splitFirst_append ha']
    rw [splitFirst_append ha, Option.some.injEq, Prod.mk.injEq] at hcut
    exact hcut
  · rintro ⟨rfl, rfl⟩
    rfl

theorem splitFirst_eq_some_iff {sep : Char} {cs a b : List Char} :
    splitFirst sep cs = some (a, b) ↔ cs = a ++ sep :: b ∧ sep ∉ a := by
  constructor
  · induction cs generalizing a with
    | nil => simp [splitFirst_nil]
    | cons c rest ih =>
      rw [splitFirst_cons]
      split
      · next e => intro h; simp only [Option.some.injEq, Prod.mk.injEq] at h; simp [← h.1, ← h.2, e]
      · next e =>
        intro h
        obtain ⟨p, hp, he⟩ := Option.map_eq_some_iff.1 h
        simp only [Prod.mk.injEq] at he
        obtain ⟨ih1, ih2⟩ := ih (a := p.1) (by rw [hp, ← he.2])
        refine ⟨by rw [← he.1, ih1]; rfl, ?_⟩
        rw [← he.1, List.mem_cons, not_or]
        exact ⟨fun e' => e e'.symm, ih2⟩
  · rintro ⟨rfl, h⟩
    exact splitFirst_append h b

theorem splitFirst_eq_none {sep : Char} {cs : List Char} :
    splitFirst sep cs = none ↔ sep ∉ cs := by
  induction cs with
  | nil => simp [splitFirst_nil]
  | cons c rest ih =>
    rw [splitFirst_cons]
    by_cases e : c = sep
    · simp [e]
    · have e' : ¬ sep = c := fun h => e h.symm
      simp [e, e', ih]

theorem splitLast_eq_some_iff {sep : Char} {cs a b : List Char} :
    splitLast sep cs = some (a, b) ↔ cs = a ++ sep :: b ∧ sep ∉ b := by
  rw [splitLast, Option.map_eq_some_iff]
  constructor
  · rintro ⟨⟨x, y⟩, h, e⟩
    obtain ⟨hcs, hx⟩ := splitFirst_eq_some_iff.1 h
    simp only [Prod.mk.injEq] at e
    obtain ⟨rfl, rfl⟩ := e
    exact ⟨by rw [← List.reverse_reverse cs, hcs]; simp, by simpa using hx⟩
  · rintro ⟨rfl, h⟩
    refine ⟨(b.reverse, a.reverse), splitFirst_eq_some_iff.2 ⟨by simp, by simpa using h⟩, ?_⟩
    simp

theorem splitLast_eq_none {sep : Char} {cs : List Char} : splitLast sep cs = none ↔ sep ∉ cs := by
  rw [splitLast, Option.map_eq_none_iff, splitFirst_eq_none, List.mem_reverse]

/-! ## All cuts -/

/-- The parts of what is left, where `part` holds the characters of the part at hand, last one
first. -/
def splitAllFrom (sep : Char) (part : List Char) : List Char → List (List Char)
  | [] => [part.reverse]
  | c :: rest =>
    if c = sep then part.reverse :: splitAllFrom sep [] rest else splitAllFrom sep (c :: part) rest

/-- The parts between the separators, one more than there are separators. -/
def splitAll (sep : Char) (cs : List Char) : List (List Char) := splitAllFrom sep [] cs

theorem splitAllFrom_ne_nil (sep : Char) (part cs : List Char) : splitAllFrom sep part cs ≠ [] := by
  induction cs generalizing part with
  | nil => simp [splitAllFrom]
  | cons c rest ih =>
    rw [splitAllFrom]
    split
    · simp
    · exact ih _

theorem intercalate_cons_ne_nil (sep part : List Char) {parts : List (List Char)}
    (h : parts ≠ []) :
    List.intercalate sep (part :: parts) = part ++ sep ++ List.intercalate sep parts := by
  cases parts with
  | nil => exact absurd rfl h
  | cons p ps => simp [List.intercalate, List.intersperse]

theorem intercalate_splitAllFrom (sep : Char) (part cs : List Char) :
    List.intercalate [sep] (splitAllFrom sep part cs) = part.reverse ++ cs := by
  induction cs generalizing part with
  | nil => simp [splitAllFrom, List.intercalate]
  | cons c rest ih =>
    rw [splitAllFrom]
    split
    · next e =>
      rw [intercalate_cons_ne_nil _ _ (splitAllFrom_ne_nil _ _ _), ih, e]
      simp
    · rw [ih]; simp

theorem intercalate_splitAll (sep : Char) (cs : List Char) :
    List.intercalate [sep] (splitAll sep cs) = cs := by
  simp [splitAll, intercalate_splitAllFrom]

theorem not_mem_of_mem_splitAllFrom {sep : Char} {part cs p : List Char} (hpart : sep ∉ part)
    (h : p ∈ splitAllFrom sep part cs) : sep ∉ p := by
  induction cs generalizing part with
  | nil =>
    simp only [splitAllFrom, List.mem_singleton] at h
    simpa [h] using hpart
  | cons c rest ih =>
    rw [splitAllFrom] at h
    split at h
    · rcases List.mem_cons.1 h with h | h
      · simpa [h] using hpart
      · exact ih (List.not_mem_nil) h
    · next e =>
      refine ih ?_ h
      rw [List.mem_cons, not_or]
      exact ⟨fun e' => e e'.symm, hpart⟩

theorem not_mem_of_mem_splitAll {sep : Char} {cs p : List Char} (h : p ∈ splitAll sep cs) :
    sep ∉ p :=
  not_mem_of_mem_splitAllFrom List.not_mem_nil h

theorem splitAllFrom_of_not_mem {sep : Char} {cs : List Char} (h : sep ∉ cs) (part : List Char) :
    splitAllFrom sep part cs = [part.reverse ++ cs] := by
  induction cs generalizing part with
  | nil => simp [splitAllFrom]
  | cons c rest ih =>
    simp only [List.mem_cons, not_or] at h
    rw [splitAllFrom, if_neg fun e => h.1 e.symm, ih h.2]
    simp

theorem splitAllFrom_append_cons (sep : Char) (part a b : List Char) :
    splitAllFrom sep part (a ++ sep :: b)
      = splitAllFrom sep part a ++ splitAllFrom sep [] b := by
  induction a generalizing part with
  | nil => simp [splitAllFrom]
  | cons c rest ih =>
    rw [List.cons_append, splitAllFrom, splitAllFrom]
    split
    · rw [ih, List.cons_append]
    · exact ih _

/-- Without a separator there is one part. -/
theorem splitAll_of_not_mem {sep : Char} {cs : List Char} (h : sep ∉ cs) :
    splitAll sep cs = [cs] :=
  splitAllFrom_of_not_mem h []

/-- A separator stands between the parts before it and those after it. -/
theorem splitAll_append_cons (sep : Char) (a b : List Char) :
    splitAll sep (a ++ sep :: b) = splitAll sep a ++ splitAll sep b :=
  splitAllFrom_append_cons sep [] a b

/-- The first part ends at the first separator. -/
theorem splitAll_append {sep : Char} {a : List Char} (h : sep ∉ a) (b : List Char) :
    splitAll sep (a ++ sep :: b) = a :: splitAll sep b := by
  rw [splitAll_append_cons, splitAll_of_not_mem h, List.singleton_append]

/-- Joined parts are cut where they were joined, and where a part holds the separator itself. -/
theorem splitAll_intercalate_eq_flatMap (sep : Char) {parts : List (List Char)}
    (hne : parts ≠ []) :
    splitAll sep ([sep].intercalate parts) = parts.flatMap (splitAll sep) := by
  induction parts with
  | nil => exact absurd rfl hne
  | cons p rest ih =>
    cases rest with
    | nil => rw [List.intercalate_singleton, List.flatMap_singleton]
    | cons q rest =>
      rw [List.intercalate_cons_cons, List.append_assoc, List.singleton_append,
        splitAll_append_cons, ih (List.cons_ne_nil q rest), ← List.flatMap_cons]

/-- Parts without the separator are left as they are. -/
theorem flatMap_splitAll_of_not_mem {sep : Char} {parts : List (List Char)}
    (h : ∀ p ∈ parts, sep ∉ p) : parts.flatMap (splitAll sep) = parts := by
  induction parts with
  | nil => rfl
  | cons p rest ih =>
    rw [List.forall_mem_cons] at h
    rw [List.flatMap_cons, splitAll_of_not_mem h.1, ih h.2, List.singleton_append]

/-- Parts that are joined by a separator that none of them holds can be told apart again. -/
theorem splitAll_intercalate {sep : Char} {parts : List (List Char)} (hne : parts ≠ [])
    (h : ∀ p ∈ parts, sep ∉ p) : splitAll sep ([sep].intercalate parts) = parts := by
  rw [splitAll_intercalate_eq_flatMap sep hne, flatMap_splitAll_of_not_mem h]

/-- A property that the separator has holds of joined parts when it holds of each part. -/
theorem forall_mem_intercalate {P : Char → Prop} {sep : Char} (hsep : P sep)
    {parts : List (List Char)} :
    (∀ c ∈ [sep].intercalate parts, P c) ↔ ∀ p ∈ parts, ∀ c ∈ p, P c := by
  induction parts with
  | nil => simp
  | cons p rest ih =>
    cases rest with
    | nil => simp
    | cons q rest =>
      rw [List.intercalate_cons_cons, List.forall_mem_append, List.forall_mem_append, ih,
        List.forall_mem_cons]
      simp [hsep]

/-! ## Scheme marks -/

/-- Do the characters of `needle` occur next to each other? -/
def containsChars (needle : List Char) : List Char → Bool
  | [] => needle.isEmpty
  | c :: rest => needle.isPrefixOf (c :: rest) || containsChars needle rest

/-- The mark between a scheme and what follows it in a location. -/
def schemeMark : List Char := [':', '/', '/']

/-- Do the characters hold a scheme mark? -/
def hasScheme (cs : List Char) : Bool := containsChars schemeMark cs

theorem containsChars_iff {needle cs : List Char} :
    containsChars needle cs = true ↔ needle <:+: cs := by
  induction cs with
  | nil => simp [containsChars]
  | cons c rest ih =>
    rw [containsChars, Bool.or_eq_true, List.isPrefixOf_iff_prefix, ih, List.infix_cons_iff]

theorem hasScheme_iff {cs : List Char} : hasScheme cs = true ↔ [':', '/', '/'] <:+: cs :=
  containsChars_iff

end CellRecipe.Text
