import CellRecipe.Proofs.StagingMessage

/-!
# Fields that break a schema

A schema is held against a message field by field. What a field must have is said by its value
alone: a value of the kind or, where the field may be missing, nothing. A field that has neither is
complained of once, in its place, and nothing else is.

So two messages with the same values for the fields of a schema are complained of alike. As the keys
of a message are distinct, the values do not depend on the order of its members, on members that the
schema does not name or on members that are `null`. And a field that no longer has to be there can
only be complained of less.

## Main definitions

* `FieldKind.Holds`: the values of a kind.
* `Schema.Meets`: a message has what a field asks for.
* `Schema.complaint`: what is said of a field that does not.

## Main results

* `Json.member?_eq_some_iff`: members of an object with distinct keys, whatever their order.
* `Schema.violations_eq`: the complaints about a message, one by one.
* `Schema.violations_congr`: only the values of the fields count.
* `Schema.violations_exact`: the complaints about a message and about its relatives.
-/

namespace CellRecipe

/-! ## Members of an object -/

namespace Json

variable {ms : Members} {key : String} {j : Json}

/-- With distinct keys an object has one value at a key, wherever it stands. -/
theorem member?_eq_some_iff (distinct : (keys ms).Nodup) :
    member? ms key = some j ↔ (key, j) ∈ ms := by
  induction ms with
  | nil => simp [member?]
  | cons m rest ih =>
      obtain ⟨k, v⟩ := m
      obtain ⟨hfresh, hdistinct⟩ := List.nodup_cons.1 distinct
      rw [member?, List.lookup_cons, List.mem_cons, Prod.mk.injEq]
      by_cases hk : key = k
      · have hrest : (key, j) ∉ rest := fun hmem => hfresh (List.mem_map.2 ⟨(key, j), hmem, hk⟩)
        simp [hk, hk ▸ hrest, eq_comm]
      · have hne : (key == k) = false := beq_eq_false_iff_ne.2 hk
        rw [hne, ← ih hdistinct]
        simp [hk, member?]

theorem member?_eq_none_iff : member? ms key = none ↔ key ∉ keys ms := by
  rw [member?, List.lookup_eq_none_iff, keys, List.mem_map]
  simp only [bne_iff_ne, ne_eq, not_exists, not_and]
  exact forall₂_congr fun m _ => not_congr eq_comm

/-- A look at one key sees through everything that is filtered out under other keys. -/
theorem member?_filter {keep : String × Json → Bool} (h : ∀ j, keep (key, j) = true) :
    member? (ms.filter keep) key = member? ms key := by
  unfold member?
  induction ms with
  | nil => rfl
  | cons m rest ih =>
      obtain ⟨k, v⟩ := m
      by_cases hk : key = k
      · subst hk
        rw [List.filter_cons_of_pos (h v), List.lookup_cons_self, List.lookup_cons_self]
      · have hne : (key == k) = false := beq_eq_false_iff_ne.2 hk
        rw [List.lookup_cons, hne, ← ih, List.filter_cons]
        split
        · rw [List.lookup_cons, hne]
        · rfl

end Json

/-! ## What a field asks for -/

/-- The values of a kind. -/
inductive FieldKind.Holds : FieldKind → Json → Prop
  | text (s : String) : Holds .text (.string s)
  | list (items : List Json) : Holds .list (.array items)
  | object (ms : Json.Members) : Holds .object (.object ms)
  | flag (b : Bool) : Holds .flag (.bool b)

theorem FieldKind.admits_iff {kind : FieldKind} {j : Json} :
    kind.admits j = true ↔ kind.Holds j := by
  constructor
  · intro h
    unfold admits at h
    split at h
    · exact .text _
    · exact .list _
    · exact .object _
    · exact .flag _
    · cases h
  · intro h
    cases h <;> rfl

theorem FieldKind.Holds.ne_null {kind : FieldKind} {j : Json} (h : kind.Holds j) : j ≠ .null := by
  rintro rfl
  cases h

namespace Schema

open Json (keys Members)

/-- The message has what the field asks for: a value of its kind or, if the field may be missing,
nothing at all. -/
def Meets (message : Members) (f : SchemaField) : Prop :=
  f.kind.Holds (valueAt message f.name) ∨ f.required = false ∧ valueAt message f.name = .null

/-- What is said of a field that the message does not meet. -/
def complaint (message : Members) (f : SchemaField) : Violation :=
  ⟨f.name, f.kind.words, (valueAt message f.name).kindWords⟩

section OneMessage

variable {schema : Schema} {message : Members} {f : SchemaField}

theorem violation?_of_null (h : valueAt message f.name = .null) :
    violation? message f = if f.required then some (complaint message f) else none := by
  rw [violation?, complaint, h]

theorem violation?_of_ne_null (h : valueAt message f.name ≠ .null) :
    violation? message f
      = if f.kind.admits (valueAt message f.name) then none else some (complaint message f) := by
  unfold violation? complaint
  split
  · next hnull => exact absurd hnull h
  · rfl

theorem violation?_of_meets (h : Meets message f) : violation? message f = none := by
  rcases h with holds | ⟨optional, hnull⟩
  · rw [violation?_of_ne_null holds.ne_null, if_pos (FieldKind.admits_iff.2 holds)]
  · rw [violation?_of_null hnull, if_neg (Bool.eq_false_iff.1 optional)]

theorem violation?_of_not_meets (h : ¬ Meets message f) :
    violation? message f = some (complaint message f) := by
  obtain ⟨notHolds, notMissing⟩ := not_or.1 h
  by_cases hnull : valueAt message f.name = .null
  · have required : f.required = true :=
      eq_true_of_ne_false fun optional => notMissing ⟨optional, hnull⟩
    rw [violation?_of_null hnull, if_pos required]
  · rw [violation?_of_ne_null hnull, if_neg fun admits => notHolds (FieldKind.admits_iff.1 admits)]

theorem violation?_eq_none_iff : violation? message f = none ↔ Meets message f := by
  refine ⟨fun h => ?_, violation?_of_meets⟩
  by_contra notMet
  rw [violation?_of_not_meets notMet] at h
  cases h

instance (message : Members) (f : SchemaField) : Decidable (Meets message f) :=
  decidable_of_iff _ violation?_eq_none_iff

theorem violations_cons_of_meets (h : Meets message f) (rest : Schema) :
    violations (f :: rest) message = violations rest message :=
  List.filterMap_cons_none (violation?_of_meets h)

theorem violations_cons_of_not_meets (h : ¬ Meets message f) (rest : Schema) :
    violations (f :: rest) message = complaint message f :: violations rest message :=
  List.filterMap_cons_some (violation?_of_not_meets h)

/-- Every field that is not met is complained of once, in the order of the schema. -/
theorem violations_eq (schema : Schema) (message : Members) :
    schema.violations message
      = (schema.filter fun f => ¬ Meets message f).map (complaint message) := by
  induction schema with
  | nil => rfl
  | cons f rest ih =>
      by_cases h : Meets message f
      · rw [violations_cons_of_meets h, ih, List.filter_cons_of_neg (by simpa using h)]
      · rw [violations_cons_of_not_meets h, ih, List.filter_cons_of_pos (by simpa using h),
          List.map_cons]

theorem violations_eq_nil_iff :
    schema.violations message = [] ↔ ∀ f ∈ schema, Meets message f := by
  rw [violations, List.filterMap_eq_nil_iff]
  simp only [violation?_eq_none_iff]

theorem isViolated_iff {name : String} :
    isViolated (schema.violations message) name = true
      ↔ ∃ f ∈ schema, f.name = name ∧ ¬ Meets message f := by
  rw [isViolated, List.any_eq_true, violations_eq]
  constructor
  · rintro ⟨v, hv, hname⟩
    obtain ⟨f, hf, rfl⟩ := List.mem_map.1 hv
    obtain ⟨hschema, notMet⟩ := List.mem_filter.1 hf
    exact ⟨f, hschema, beq_iff_eq.1 hname, of_decide_eq_true notMet⟩
  · rintro ⟨f, hschema, rfl, notMet⟩
    have hf : f ∈ schema.filter fun f => ¬ Meets message f :=
      List.mem_filter.2 ⟨hschema, decide_eq_true notMet⟩
    exact ⟨complaint message f, List.mem_map_of_mem hf, beq_self_eq_true f.name⟩

end OneMessage

/-! ## Messages and schemas that differ -/

section Relatives

variable {schema : Schema} {message message' : Members}

/-- Only the values of the fields count. -/
theorem violations_congr
    (h : ∀ f ∈ schema, valueAt message f.name = valueAt message' f.name) :
    schema.violations message = schema.violations message' := by
  refine List.filterMap_congr fun f hf => ?_
  rw [violation?, violation?, h f hf]

/-- The value of a field is the one that the message has under its name, or `null`. -/
theorem valueAt_eq_iff (distinct : (keys message).Nodup) {name : String} {j : Json} :
    valueAt message name = j ↔ (name, j) ∈ message ∨ name ∉ keys message ∧ j = .null := by
  cases h : Json.member? message name with
  | none =>
      have absent := Json.member?_eq_none_iff.1 h
      have notMem : (name, j) ∉ message := fun hmem => absent (List.mem_map_of_mem hmem)
      simp [valueAt, h, absent, notMem, eq_comm]
  | some found =>
      have hmem := (Json.member?_eq_some_iff distinct).1 h
      have present : name ∈ keys message := List.mem_map_of_mem hmem
      rw [← Json.member?_eq_some_iff distinct]
      simp [valueAt, h, present]

/-- The order of the members does not matter. -/
theorem violations_perm (distinct : (keys message).Nodup) (h : message.Perm message') :
    schema.violations message' = schema.violations message := by
  have hkeys : (keys message).Perm (keys message') := h.map Prod.fst
  refine violations_congr fun f _ => ?_
  rw [valueAt_eq_iff (hkeys.nodup_iff.1 distinct), ← h.mem_iff, ← hkeys.mem_iff]
  exact (valueAt_eq_iff distinct).1 rfl

/-- A member that is `null` is as good as none. -/
theorem violations_of_null {before after : Members} {key : String}
    (distinct : (keys (before ++ (key, .null) :: after)).Nodup) :
    schema.violations (before ++ after) = schema.violations (before ++ (key, .null) :: after) := by
  have hmoved : (before ++ (key, .null) :: after).Perm ((key, .null) :: (before ++ after)) :=
    List.perm_middle
  have hkeys : (keys (before ++ (key, .null) :: after)).Perm (key :: keys (before ++ after)) :=
    hmoved.map Prod.fst
  obtain ⟨fresh, distinct'⟩ := List.nodup_cons.1 (hkeys.nodup_iff.1 distinct)
  -- A field of that name had `null` as its value, and with the member gone it has none.
  refine violations_congr fun f _ => (valueAt_eq_iff distinct').2 ?_
  rcases (valueAt_eq_iff distinct).1 (Eq.refl (valueAt _ f.name)) with hmem | ⟨absent, hnull⟩
  · rcases List.mem_cons.1 (hmoved.mem_iff.1 hmem) with heq | hmem
    · obtain ⟨hname, hnull⟩ := Prod.mk.inj heq
      exact .inr ⟨hname ▸ fresh, hnull⟩
    · exact .inl hmem
  · exact .inr ⟨fun h => absent (hkeys.mem_iff.2 (List.mem_cons_of_mem key h)), hnull⟩

/-- Is the key of the member the name of a field? -/
def names (schema : Schema) (m : String × Json) : Bool := schema.any fun f => f.name == m.1

/-- Members that the schema does not name do not count. -/
theorem violations_filter (schema : Schema) (message : Members) :
    schema.violations (message.filter schema.names) = schema.violations message := by
  refine violations_congr fun f hf => ?_
  have named : ∀ j, schema.names (f.name, j) = true :=
    fun j => List.any_eq_true.2 ⟨f, hf, beq_self_eq_true f.name⟩
  rw [valueAt, valueAt, Json.member?_filter named]

/-- A field that may be missing is met by all that meets it when it may not. -/
theorem Meets.mayBeMissing {f : SchemaField} (h : Meets message f) :
    Meets message { f with required := false } :=
  h.imp id fun missing => ⟨rfl, missing.2⟩

/-- A field that may be missing is complained of no more than before, and in the same words. -/
theorem violations_sublist (before after : Schema) (f : SchemaField) :
    (violations (before ++ { f with required := false } :: after) message).Sublist
      (violations (before ++ f :: after) message) := by
  rw [violations_append, violations_append]
  refine (List.Sublist.refl _).append ?_
  by_cases h : Meets message f
  · rw [violations_cons_of_meets h, violations_cons_of_meets h.mayBeMissing]
  · rw [violations_cons_of_not_meets h]
    by_cases h' : Meets message { f with required := false }
    · rw [violations_cons_of_meets h']
      exact List.sublist_cons_self _ _
    · rw [violations_cons_of_not_meets h']
      exact List.Sublist.refl _

end Relatives

/-- Fields before and behind a list that must be there. -/
def listing : Schema :=
  [must "fresh" .flag, may "title" .text] ++ must "items" .list :: [may "notes" .list]

/-- A message without the list, and with a text where another list is asked for. -/
def untidy : Members :=
  [("title", .null), ("author", .string "me"), ("notes", .string "none"), ("fresh", .bool true)]

end Schema

end CellRecipe
