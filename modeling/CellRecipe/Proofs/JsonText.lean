import CellRecipe.Proofs.JsonNumbers
import Mathlib.Tactic.SplitIfs

/-!
# Reading compact JSON text back

A value that has been written as compact text is read from the text again, its members in their
order, whatever its strings are made of. Two things can be in the way: the reader gives up on values
that are nested too deeply, and some doubles do not come back. Values with neither are `Legible`.

The text is read from the left with fuel. What follows a value is of no matter to the reader as
long as it goes on with a comma or with a bracket, and two steps of fuel read one character at
least. So the induction is on what makes the value legible, with the text that follows and the fuel
left open, and inside an array or an object it is on the items or the members.

## Main definitions

* `Json.Legible`: values that come back, up to a depth.

## Main results

* `Json.stringTail_escaped`: a string is read back from its escaped characters.
* `Json.value_compact`: a legible value is read back from the head of a text.
* `Json.parse?_compact`: the compact text of a legible value denotes the value.
-/

namespace CellRecipe.Json

/-! ## Strings -/

/-- The two digits of a control character are its number. -/
theorem hexQuad_hexDigit {n : Nat} (h : n < 0x20) (rest : List Char) :
    hexQuad ('0' :: '0' :: Text.hexDigit (n / 16) :: Text.hexDigit n :: rest) = some (n, rest) := by
  have hdigits : ∀ n < 0x20, Text.hexDigitValue? (Text.hexDigit (n / 16)) = some (n / 16) ∧
      Text.hexDigitValue? (Text.hexDigit n) = some (n % 16) := by decide
  have hzero : Text.hexDigitValue? '0' = some 0 := by decide
  obtain ⟨hhigh, hlow⟩ := hdigits n h
  simp only [hexQuad, hzero, hhigh, hlow, Option.bind_eq_bind, Option.bind_some, Option.pure_def,
    Option.some.injEq, Prod.mk.injEq, and_true]
  omega

theorem escape_control {c : Char} (h : c.toNat < 0x20) (rest : List Char) :
    escape ('u' :: '0' :: '0' :: Text.hexDigit (c.toNat / 16) :: Text.hexDigit c.toNat :: rest)
      = some (some c, rest) := by
  have hunicode : ∀ cs, escape ('u' :: cs) = unicodeEscape cs := fun _ => rfl
  rw [hunicode, unicodeEscape, hexQuad_hexDigit h]
  simp only [Option.bind_eq_bind, Option.bind_some]
  rw [if_neg (by omega), if_neg (by omega), Char.ofNat_toNat]
  rfl

/-- A character is read back from what stands for it in a string. -/
theorem stringTail_escapeChar (c : Char) (read : List Char) (fuel : Nat) (rest : List Char) :
    stringTail read (fuel + 1) (escapeChar c ++ rest) = stringTail (c :: read) fuel rest := by
  unfold escapeChar
  split_ifs with hquote hbackslash hb hf hn hr ht hcontrol
  · subst hquote; rfl
  · subst hbackslash; rfl
  · subst hb; rfl
  · subst hf; rfl
  · subst hn; rfl
  · subst hr; rfl
  · subst ht; rfl
  · simp only [List.cons_append, List.nil_append]
    rw [stringTail, if_neg (by decide), if_pos rfl, escape_control hcontrol rest]
  · rw [List.singleton_append, stringTail, if_neg hquote, if_neg hbackslash, if_neg hcontrol]

/-- A string is read back from its escaped characters, up to the quote. -/
theorem stringTail_escaped (cs : List Char) {read : List Char} {fuel : Nat}
    (hfuel : cs.length < fuel) (rest : List Char) :
    stringTail read fuel (cs.flatMap escapeChar ++ '\x22' :: rest)
      = some (some (String.ofList (read.reverse ++ cs)), rest) := by
  induction cs generalizing read fuel with
  | nil =>
      obtain ⟨fuel, rfl⟩ := Nat.exists_eq_add_of_lt hfuel
      rw [List.append_nil]
      rfl
  | cons c cs ih =>
      obtain ⟨fuel, rfl⟩ := Nat.exists_eq_add_of_lt hfuel
      have hrest : cs.length < (c :: cs).length + fuel := by
        rw [List.length_cons]
        omega
      rw [List.flatMap_cons, List.append_assoc, stringTail_escapeChar, ih hrest,
        List.reverse_cons, List.append_assoc, List.singleton_append]

theorem toList_quoted (s : String) :
    (quoted s).toList = '\x22' :: (s.toList.flatMap escapeChar ++ ['\x22']) := by
  simp [quoted]

theorem length_le_length_flatMap_escapeChar (cs : List Char) :
    cs.length ≤ (cs.flatMap escapeChar).length := by
  have hone : ∀ c, 1 ≤ (escapeChar c).length := by
    intro c
    unfold escapeChar
    split_ifs <;> exact Nat.le_add_left 1 _
  induction cs with
  | nil => exact Nat.le_refl 0
  | cons c cs ih =>
      have hc := hone c
      rw [List.flatMap_cons, List.length_append, List.length_cons]
      omega

/-- The text of a string has a character for each of its own, and two quotes. -/
theorem length_quoted (s : String) : s.toList.length + 2 ≤ (quoted s).toList.length := by
  have hlength := length_le_length_flatMap_escapeChar s.toList
  rw [toList_quoted, List.length_cons, List.length_append, List.length_singleton]
  omega

theorem stringTail_quoted {s : String} {fuel : Nat} (h : s.toList.length < fuel)
    (rest : List Char) :
    stringTail [] fuel (s.toList.flatMap escapeChar ++ '\x22' :: rest) = some (some s, rest) := by
  rw [stringTail_escaped _ h, List.reverse_nil, List.nil_append, String.ofList_toList]

theorem stringLiteral_quoted {s : String} {fuel : Nat} (h : s.toList.length < fuel)
    (rest : List Char) : stringLiteral fuel ((quoted s).toList ++ rest) = some (some s, rest) := by
  rw [toList_quoted, List.cons_append, List.append_assoc]
  exact stringTail_quoted h rest

/-! ## Legible values -/

/-- Values that are nested `depth` deep at most, with numbers that are denoted by their text. -/
inductive Legible : (depth : Nat) → Json → Prop
  | null {depth : Nat} : Legible depth .null
  | bool {depth : Nat} {b : Bool} : Legible depth (.bool b)
  | number {depth : Nat} {n : Number} (reads : n.ReadsBack) : Legible depth (.number n)
  | string {depth : Nat} {s : String} : Legible depth (.string s)
  | array {depth : Nat} {items : List Json} (each : ∀ x ∈ items, Legible depth x) :
      Legible (depth + 1) (.array items)
  | object {depth : Nat} {ms : Members} (each : ∀ m ∈ ms, Legible depth m.2) :
      Legible (depth + 1) (.object ms)

/-! ## Values that are one token -/

variable {depth fuel : Nat} {s : Source} {cs rest after : List Char}

theorem value_of_token {c : Char} (h : Bracket.ofOpening? c = none) :
    value depth (fuel + 1) (c :: cs)
      = (token fuel (c :: cs)).map fun found => (found.1.source, found.2) := by
  unfold value
  rw [h]

theorem value_null : value depth (fuel + 1) ("null".toList ++ after) = some (.null, after) := rfl

theorem value_boolText (b : Bool) :
    value depth (fuel + 1) ((boolText b).toList ++ after) = some (.bool b, after) := by
  cases b <;> rfl

theorem value_number {n : Number} (hn : n.ReadsBack) (ha : Ends after) :
    value depth (fuel + 1) (n.text.toList ++ after) = some (.number n, after) := by
  obtain ⟨l, hread, hnumber⟩ := hn
  obtain ⟨c, cs, hcs, hc⟩ := head_of_literal hread
  -- The first character of a number starts nothing else.
  have hother : ∀ d ∈ ['\x22', 'n', 't', 'f', '[', '\x7b'], c ≠ d := by
    have hnot : (['\x22', 'n', 't', 'f', '[', '\x7b'].all fun d =>
        !(d == '-' || Text.isDigit d)) = true := rfl
    rintro d hd rfl
    have hstart : ¬ c = '-' ∧ Text.isDigit c = false := by
      simpa using List.all_eq_true.1 hnot c hd
    rcases hc with hc | hc
    · exact hstart.1 hc
    · exact absurd hc (Bool.eq_false_iff.1 hstart.2)
  have hopen : Bracket.ofOpening? c = none := by
    unfold Bracket.ofOpening?
    split
    · exact absurd rfl (hother _ (by decide))
    · exact absurd rfl (hother _ (by decide))
    · rfl
  have happend := literal_append ha hread
  rw [hcs, List.cons_append, List.nil_append] at happend
  rw [hcs, List.cons_append, value_of_token hopen, token, if_neg (hother _ (by decide)),
    if_neg (hother _ (by decide)), if_neg (hother _ (by decide)), if_neg (hother _ (by decide)),
    happend]
  simp only [Option.map_some, Token.source, hnumber, Option.getD_some]

theorem value_quoted {s : String} (h : s.toList.length < fuel) :
    value depth (fuel + 1) ((quoted s).toList ++ after) = some (.string s, after) := by
  rw [toList_quoted, List.cons_append, value_of_token rfl, token, if_pos rfl, List.append_assoc,
    List.singleton_append, stringTail_quoted h]
  rfl

/-! ## Items and members -/

/-- Where a value can be read stands neither a blank nor the end of an array. -/
theorem head_of_value (h : value depth fuel cs = some (s, rest)) :
    skipGaps cs = cs ∧ ∀ cs', cs ≠ ']' :: cs' := by
  have hnone : ∀ c ∈ [' ', '\n', '\t', '\r', ']'], ∀ fuel cs,
      value depth fuel (c :: cs) = none := by
    intro c hc fuel cs
    cases fuel with
    | zero => rfl
    | succ fuel =>
        simp only [List.mem_cons, List.not_mem_nil, or_false] at hc
        rcases hc with rfl | rfl | rfl | rfl | rfl <;> rfl
  constructor
  · cases cs with
    | nil => rfl
    | cons c cs =>
        refine List.dropWhile_cons_of_neg fun hc => ?_
        have hblank : c ∈ [' ', '\n', '\t', '\r', ']'] := by
          simp only [isGap, Bool.or_eq_true, decide_eq_true_iff] at hc
          rcases hc with ((rfl | rfl) | rfl) | rfl <;> decide
        rw [hnone c hblank] at h
        cases h
  · rintro cs' rfl
    rw [hnone ']' (by decide)] at h
    cases h

variable {read : List Source} {done : Source.Members} {k : String}

theorem items_of_last (h : value depth fuel cs = some (s, ']' :: after)) :
    items depth read (fuel + 1) cs = some (.array (s :: read).reverse, after) := by
  rw [items, h]
  rfl

theorem items_of_next (h : value depth fuel cs = some (s, ',' :: rest)) :
    items depth read (fuel + 1) cs = items depth (s :: read) fuel (skipGaps rest) := by
  rw [items, h]
  rfl

/-- Items stand where the first one of them stands. -/
theorem head_of_items (h : items depth read fuel cs = some (s, rest)) :
    skipGaps cs = cs ∧ ∀ cs', cs ≠ ']' :: cs' := by
  cases fuel with
  | zero => cases h
  | succ fuel =>
      rw [items] at h
      obtain ⟨⟨first, rest'⟩, hfirst, -⟩ := Option.bind_eq_some_iff.1 h
      exact head_of_value hfirst

theorem value_of_items (h : items depth [] fuel cs = some (s, rest)) :
    value (depth + 1) (fuel + 1) ('[' :: cs) = some (s, rest) := by
  obtain ⟨hgaps, hclose⟩ := head_of_items h
  have hopen : Bracket.ofOpening? '[' = some .array := rfl
  unfold value
  simp only [hopen, hgaps]
  exact h

theorem afterColon_of_value (h : value depth fuel cs = some (s, rest)) :
    afterColon (':' :: cs) = some cs :=
  congrArg some (head_of_value h).1

theorem members_of_last (hkey : stringLiteral fuel cs = some (some k, ':' :: rest))
    (h : value depth fuel rest = some (s, '\x7d' :: after)) :
    members depth done (fuel + 1) cs = some (.object ((k, s) :: done).reverse, after) := by
  rw [members, hkey]
  simp only [Option.bind_eq_bind, Option.bind_some]
  rw [afterColon_of_value h, Option.bind_some, h]
  rfl

theorem members_of_next {rest' : List Char}
    (hkey : stringLiteral fuel cs = some (some k, ':' :: rest))
    (h : value depth fuel rest = some (s, ',' :: rest')) :
    members depth done (fuel + 1) cs = members depth ((k, s) :: done) fuel (skipGaps rest') := by
  rw [members, hkey]
  simp only [Option.bind_eq_bind, Option.bind_some]
  rw [afterColon_of_value h, Option.bind_some, h]
  rfl

theorem value_of_members :
    value (depth + 1) (fuel + 1) ('\x7b' :: '\x22' :: cs) = members depth [] fuel ('\x22' :: cs) :=
  rfl

/-! ## Texts -/

/-- The texts of items, with commas between them. -/
def itemsText (xs : List Json) : List Char := [','].intercalate (xs.map fun x => x.compact.toList)

/-- The text of a member. -/
def memberText : String × Json → List Char
  | (k, v) => (quoted k).toList ++ ':' :: v.compact.toList

/-- The texts of members, with commas between them. -/
def membersText (ms : Members) : List Char := [','].intercalate (ms.map memberText)

theorem toList_compact_array (xs : List Json) :
    (Json.array xs).compact.toList = '[' :: (itemsText xs ++ [']']) := by
  rw [compact, compactItems_eq_map]
  simp [Function.comp_def, itemsText]

theorem toList_compact_object (ms : Members) :
    (Json.object ms).compact.toList = '\x7b' :: (membersText ms ++ ['\x7d']) := by
  have hmember : memberText
      = fun m => (quoted m.1).toList ++ ':' :: m.2.compact.toList := rfl
  rw [compact, compactMembers_eq_map]
  simp [Function.comp_def, membersText, hmember]

theorem intercalate_comma_cons_cons (text next : List Char) (texts : List (List Char)) :
    [','].intercalate (text :: next :: texts) = text ++ ',' :: [','].intercalate (next :: texts) := by
  rw [List.intercalate_cons_cons, List.append_assoc, List.singleton_append]

theorem itemsText_singleton (x : Json) : itemsText [x] = x.compact.toList :=
  List.intercalate_singleton

theorem itemsText_cons_cons (x y : Json) (xs : List Json) :
    itemsText (x :: y :: xs) = x.compact.toList ++ ',' :: itemsText (y :: xs) :=
  intercalate_comma_cons_cons _ _ _

theorem membersText_singleton (m : String × Json) : membersText [m] = memberText m :=
  List.intercalate_singleton

theorem membersText_cons_cons (m n : String × Json) (ms : Members) :
    membersText (m :: n :: ms) = memberText m ++ ',' :: membersText (n :: ms) :=
  intercalate_comma_cons_cons _ _ _

/-- A member starts with the quote of its key. -/
theorem membersText_eq_cons (m : String × Json) (ms : Members) :
    ∃ cs, membersText (m :: ms) = '\x22' :: cs := by
  obtain ⟨k, v⟩ := m
  have hmember : ∃ cs, memberText (k, v) = '\x22' :: cs := by
    rw [memberText, toList_quoted]
    exact ⟨_, rfl⟩
  obtain ⟨cs, hcs⟩ := hmember
  cases ms with
  | nil => exact ⟨cs, by rw [membersText_singleton, hcs]⟩
  | cons n ms => exact ⟨_, by rw [membersText_cons_cons, hcs, List.cons_append]⟩

/-! ## Reading back -/

/-- The value is read back from the head of every text that ends it, with enough fuel. -/
def ReadAtHead (depth : Nat) (j : Json) : Prop :=
  ∀ fuel after, Ends after → 2 * j.compact.toList.length ≤ fuel + 1 →
    value depth (fuel + 1) (j.compact.toList ++ after) = some (.ofJson j, after)

/-- Items are read back when each of them is. -/
theorem items_compact {xs : List Json} (hne : xs ≠ []) (each : ∀ x ∈ xs, ReadAtHead depth x)
    (hfuel : 2 * ((itemsText xs).length + 1) ≤ fuel) :
    items depth read fuel (itemsText xs ++ ']' :: after)
      = some (.array (read.reverse ++ Source.ofItems xs), after) := by
  induction xs generalizing read fuel with
  | nil => exact absurd rfl hne
  | cons x xs ih =>
      rw [List.forall_mem_cons] at each
      obtain ⟨hx, hxs⟩ := each
      obtain ⟨fuel, rfl⟩ : ∃ f, fuel = f + 2 := ⟨fuel - 2, by omega⟩
      cases xs with
      | nil =>
          rw [itemsText_singleton] at hfuel ⊢
          have hend : Ends (']' :: after) := ends_cons after (by simp)
          rw [items_of_last (hx fuel _ hend (by omega)), List.reverse_cons]
          rfl
      | cons y xs =>
          rw [itemsText_cons_cons, List.length_append, List.length_cons] at hfuel
          rw [itemsText_cons_cons, List.append_assoc, List.cons_append]
          have hend : Ends (',' :: (itemsText (y :: xs) ++ ']' :: after)) := ends_cons _ (by simp)
          have hrest : items depth (.ofJson x :: read) (fuel + 1)
                (itemsText (y :: xs) ++ ']' :: after)
              = some (.array ((Source.ofJson x :: read).reverse ++ Source.ofItems (y :: xs)),
                  after) :=
            ih (List.cons_ne_nil y xs) hxs (by omega)
          rw [items_of_next (hx fuel _ hend (by omega)), (head_of_items hrest).1, hrest,
            List.reverse_cons, List.append_assoc]
          rfl

/-- Members are read back when their values are. -/
theorem members_compact {ms : Members} (hne : ms ≠ []) (each : ∀ m ∈ ms, ReadAtHead depth m.2)
    (hfuel : 2 * ((membersText ms).length + 1) ≤ fuel) :
    members depth done fuel (membersText ms ++ '\x7d' :: after)
      = some (.object (done.reverse ++ Source.ofMembers ms), after) := by
  induction ms generalizing done fuel with
  | nil => exact absurd rfl hne
  | cons m ms ih =>
      obtain ⟨k, v⟩ := m
      have hv : ReadAtHead depth v := each (k, v) List.mem_cons_self
      have hms : ∀ m ∈ ms, ReadAtHead depth m.2 := fun m hm => each m (List.mem_cons_of_mem _ hm)
      obtain ⟨fuel, rfl⟩ : ∃ f, fuel = f + 2 := ⟨fuel - 2, by omega⟩
      have hlength := length_quoted k
      cases ms with
      | nil =>
          rw [membersText_singleton, memberText, List.length_append, List.length_cons] at hfuel
          rw [membersText_singleton, memberText, List.append_assoc, List.cons_append]
          have hkey : k.toList.length < fuel + 1 := by omega
          have hend : Ends ('\x7d' :: after) := ends_cons after (by simp)
          rw [members_of_last (stringLiteral_quoted hkey _) (hv fuel _ hend (by omega)),
            List.reverse_cons]
          rfl
      | cons n ms =>
          rw [membersText_cons_cons, memberText, List.length_append, List.length_append,
            List.length_cons, List.length_cons] at hfuel
          rw [membersText_cons_cons, memberText, List.append_assoc, List.append_assoc,
            List.cons_append, List.cons_append]
          have hkey : k.toList.length < fuel + 1 := by omega
          have hend : Ends (',' :: (membersText (n :: ms) ++ '\x7d' :: after)) :=
            ends_cons _ (by simp)
          have hgaps : skipGaps (membersText (n :: ms) ++ '\x7d' :: after)
              = membersText (n :: ms) ++ '\x7d' :: after := by
            obtain ⟨cs, hcs⟩ := membersText_eq_cons n ms
            rw [hcs]
            rfl
          rw [members_of_next (stringLiteral_quoted hkey _) (hv fuel _ hend (by omega)), hgaps,
            ih (List.cons_ne_nil n ms) hms (by omega), List.reverse_cons, List.append_assoc]
          rfl

/-- A legible value is read back from the head of a text. -/
theorem value_compact {j : Json} (h : Legible depth j) : ReadAtHead depth j := by
  induction h with
  | null =>
      intro fuel after _ hfuel
      exact value_null
  | @bool depth b =>
      intro fuel after _ hfuel
      exact value_boolText b
  | number reads =>
      intro fuel after hend hfuel
      exact value_number reads hend
  | @string depth s =>
      intro fuel after _ hfuel
      have hlength := length_quoted s
      rw [compact] at hfuel ⊢
      exact value_quoted (by omega)
  | @array depth xs each ih =>
      intro fuel after _ hfuel
      rw [toList_compact_array, List.length_cons, List.length_append,
        List.length_singleton] at hfuel
      rw [toList_compact_array, List.cons_append, List.append_assoc, List.singleton_append]
      cases xs with
      | nil => rfl
      | cons x xs => exact value_of_items (items_compact (List.cons_ne_nil x xs) ih (by omega))
  | @object depth ms each ih =>
      intro fuel after _ hfuel
      rw [toList_compact_object, List.length_cons, List.length_append,
        List.length_singleton] at hfuel
      rw [toList_compact_object, List.cons_append, List.append_assoc, List.singleton_append]
      cases ms with
      | nil => rfl
      | cons m ms =>
          have hmembers : members depth [] fuel (membersText (m :: ms) ++ '\x7d' :: after)
              = some (.object (Source.ofMembers (m :: ms)), after) :=
            members_compact (List.cons_ne_nil m ms) ih (by omega)
          obtain ⟨cs, hcs⟩ := membersText_eq_cons m ms
          rw [hcs, List.cons_append] at hmembers ⊢
          rw [value_of_members, hmembers]
          rfl

/-- **The compact text of a legible value denotes the value.** -/
theorem parse?_compact {j : Json} (h : Legible maxDepth j) : parse? j.compact = some j := by
  have hread : value maxDepth (2 * j.compact.toList.length + 2) j.compact.toList
      = some (.ofJson j, []) := by
    have hvalue := value_compact h (2 * j.compact.toList.length + 1) [] ends_nil (by omega)
    rwa [List.append_nil] at hvalue
  have hgaps : skipGaps j.compact.toList = j.compact.toList := (head_of_value hread).1
  have hsource : Source.parse? j.compact = some (.ofJson j) := by
    unfold Source.parse?
    simp only [hgaps, hread]
    rfl
  rw [parse?, hsource, Option.bind_some, Source.value?_ofJson]

end CellRecipe.Json
