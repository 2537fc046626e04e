import CellRecipe.Table

/-!
# Reading back what was written

A reader of a domain type takes a JSON value as a text has it, a writer gives a document. `Reads`
says that the reader undoes the writer. Records are read field by field, so the facts about them are
stated for one field: what the record has under the name decides what is read, whatever stands
around it.

## Main results

* `of?_ofJson_object`: an object with distinct keys is a record of itself.
* `required_eq`, `withDefault_eq`, `optional_eq`: a field that was written is read back.
* `reads_list`, `reads_table`: a list is read back item by item, a table entry by entry.
* `read_then`: a reader of several fields is undone one field at a time.
-/

namespace CellRecipe.Json

variable {α β : Type}

/-- The reader gives back every value that the writer has written. -/
def Reads (read : Source → Option α) (write : α → Document) : Prop :=
  ∀ x, read (.ofJson (write x).toJson) = some x

/-- What reads one part after the other is done when each part is read. -/
theorem read_then {x : Option α} {f : α → Option β} {a : α} {b : β} (hx : x = some a)
    (next : f a = some b) : x >>= f = some b := by
  rw [hx]
  exact next

/-- What reads one part after the other has read each part. -/
theorem exists_of_read {x : Option α} {f : α → Option β} {b : β} (h : x >>= f = some b) :
    ∃ a, x = some a ∧ f a = some b :=
  Option.bind_eq_some_iff.1 h

/-! ## Plain values -/

theorem reads_text : Reads text? Document.text := fun _ => rfl

theorem reads_flag : Reads flag? Document.bool := fun _ => rfl

private theorem integer?_ofJson {low high n : Int} (hlow : low ≤ n) (hhigh : n ≤ high) :
    integer? low high (.ofJson (Document.integer n).toJson) = some n :=
  if_pos ⟨hlow, hhigh⟩

theorem reads_word32 : Reads word32? fun n => .natural n.toNat := by
  intro n
  have hhigh : (n.toNat : Int) ≤ UInt32.size - 1 := by
    have := n.toNat_lt
    simp only [UInt32.size]
    omega
  have h := integer?_ofJson (Int.natCast_nonneg n.toNat) hhigh
  show (integer? _ _ (.ofJson (Document.integer n.toNat).toJson)).map _ = _
  rw [h]
  simp

theorem reads_word64 : Reads word64? fun n => .natural n.toNat := by
  intro n
  have hhigh : (n.toNat : Int) ≤ UInt64.size - 1 := by
    have := n.toNat_lt
    simp only [UInt64.size]
    omega
  have h := integer?_ofJson (Int.natCast_nonneg n.toNat) hhigh
  show (integer? _ _ (.ofJson (Document.integer n.toNat).toJson)).map _ = _
  rw [h]
  simp

theorem reads_int32 : Reads int32? fun n => .integer n.toInt := by
  intro n
  rw [int32?, integer?_ofJson n.minValue_le_toInt n.toInt_le]
  simp

theorem reads_int64 : Reads int64? fun n => .integer n.toInt := by
  intro n
  rw [int64?, integer?_ofJson n.minValue_le_toInt n.toInt_le]
  simp

theorem reads_fields : Reads fields? fun f => .ofJson (.object f.members) := by
  intro f
  rw [fields?, Document.toJson_ofJson, Source.value?_ofJson]
  simp

/-! ## Lists and tables -/

private theorem mapM_ofJson {read : Source → Option α} {write : α → Document}
    (h : Reads read write) (xs : List α) :
    (Source.ofItems (Document.itemsToJson (xs.map write))).mapM read = some xs := by
  induction xs with
  | nil => rfl
  | cons x rest ih =>
      simp only [List.map_cons, Document.itemsToJson, Source.ofItems, List.mapM_cons, h x, ih]
      rfl

theorem reads_list {read : Source → Option α} {write : α → Document} (h : Reads read write) :
    Reads (list? read) fun xs => .list (xs.map write) :=
  fun xs => mapM_ofJson h xs

private theorem mapM_ofMembers {read : Source → Option α} {write : α → Document}
    (h : Reads read write) (es : List (String × α)) :
    (Source.ofMembers (Document.membersToJson (es.map fun e => (e.1, write e.2)))).mapM
      (fun m => (read m.2).map fun v => (m.1, v)) = some es := by
  induction es with
  | nil => rfl
  | cons e rest ih =>
      simp only [List.map_cons, Document.membersToJson, Source.ofMembers, List.mapM_cons, h e.2, ih]
      rfl

theorem reads_table {read : Source → Option α} {write : α → Document} (h : Reads read write) :
    Reads (Table.ofJson? read) (Table.document write) := by
  intro t
  have hentries := mapM_ofMembers h t.entries
  show Option.map Table.ofList _ = _
  rw [hentries, Option.map_some, Table.ofList_entries]

/-! ## Records -/

/-- The record of an object, once its keys are known to be distinct. -/
def Record.ofObject (ms : Members) : Record := ⟨Source.ofMembers ms⟩

/-- What a record made of an object has under a name. -/
theorem lookup_ofMembers (ms : Members) (name : String) :
    (Source.ofMembers ms).lookup name = (member? ms name).map Source.ofJson := by
  unfold member?
  induction ms with
  | nil => rfl
  | cons m rest ih =>
      obtain ⟨k, v⟩ := m
      rw [Source.ofMembers, List.lookup_cons, List.lookup_cons, ih]
      cases name == k <;> rfl

private theorem atMostOnce_ofMembers {ms : Members} (h : (keys ms).Nodup) (name : String) :
    Record.atMostOnce (Source.ofMembers ms) name = true := by
  have hkeys : (Source.ofMembers ms).map (·.1) = keys ms := by
    rw [Source.ofMembers_eq_map, List.map_map]
    rfl
  have hcount : ((Source.ofMembers ms).map (·.1)).count name ≤ 1 := by
    rw [hkeys]
    exact List.nodup_iff_count.1 h name
  rw [List.count, List.countP_map] at hcount
  rw [Record.atMostOnce, decide_eq_true_iff, ← List.countP_eq_length_filter]
  exact hcount

/-- An object in which no key occurs twice is a record, whatever fields are asked for. -/
theorem of?_ofJson_object (names : List String) {ms : Members} (h : (keys ms).Nodup) :
    Record.of? names (.ofJson (.object ms)) = some (.ofObject ms) := by
  have hall : names.all (Record.atMostOnce (Source.ofMembers ms)) = true := by
    rw [List.all_eq_true]
    intro name _
    exact atMostOnce_ofMembers h name
  rw [Source.ofJson, Record.of?, if_pos hall]
  rfl

/-- An object with these fields and no others is a record of itself. -/
theorem of?_ofJson_of_keys {names : List String} {ms : Members} (hkeys : keys ms = names)
    (distinct : names.Nodup) :
    Record.of? names (.ofJson (.object ms)) = some (.ofObject ms) :=
  of?_ofJson_object names (hkeys ▸ distinct)

variable {read : Source → Option α} {write : α → Document} {ms : Members} {name : String} {x : α}

theorem required_eq (h : Reads read write) (hm : member? ms name = some (write x).toJson) :
    (Record.ofObject ms).required name read = some x := by
  rw [Record.required, Record.ofObject, lookup_ofMembers, hm]
  exact h x

/-- A record with one field only. -/
theorem reads_field (h : Reads read write) :
    Reads (field? name read) fun x => .field name (write x) := by
  intro x
  have hm : member? [(name, (write x).toJson)] name = some (write x).toJson := by
    rw [member?, List.lookup_cons_self]
  refine read_then (of?_ofJson_of_keys rfl (by simp)) ?_
  exact required_eq h hm

/-- A value that may be missing is written like one that may not, when it is there. -/
theorem required_of_orNull {found : Option α} (h : Reads read write) (hx : found = some x)
    (hm : member? ms name = some (Document.orNull write found).toJson) :
    (Record.ofObject ms).required name read = some x := by
  subst hx
  exact required_eq h hm

theorem withDefault_eq (default : α) (h : Reads read write)
    (hm : member? ms name = some (write x).toJson) :
    (Record.ofObject ms).withDefault name default read = some x := by
  rw [Record.withDefault, Record.ofObject, lookup_ofMembers, hm]
  exact h x

theorem withDefault_of_absent (default : α) (read : Source → Option α)
    (hm : member? ms name = none) :
    (Record.ofObject ms).withDefault name default read = some default := by
  rw [Record.withDefault, Record.ofObject, lookup_ofMembers, hm]
  rfl

/-- What is not `null` is there. -/
theorem orNull?_ofJson {j : Json} (hj : j ≠ .null) (read : Source → Option α) :
    orNull? read (.ofJson j) = (read (.ofJson j)).map some := by
  cases j with
  | null => exact absurd rfl hj
  | _ => rfl

/-- What is never written as `null` is read back as a value that may be missing. -/
theorem reads_orNull (h : Reads read write) (hnull : ∀ x, (write x).toJson ≠ .null) :
    Reads (orNull? read) (Document.orNull write) := by
  intro found
  cases found with
  | none => rfl
  | some x =>
      rw [Document.orNull, orNull?_ofJson (hnull x), h x]
      rfl

theorem reads_orNull_text : Reads (orNull? text?) (Document.orNull .text) :=
  reads_orNull reads_text fun _ => by simp [Document.toJson]

theorem optional_eq {found : Option α} (h : Reads (orNull? read) (Document.orNull write))
    (hm : member? ms name = some (Document.orNull write found).toJson) :
    (Record.ofObject ms).optional name read = some found :=
  withDefault_eq none h hm

theorem optional_of_absent (read : Source → Option α) (hm : member? ms name = none) :
    (Record.ofObject ms).optional name read = some none :=
  withDefault_of_absent none _ hm

/-! ## Cases that name themselves -/

/-- The name of a case is found in front of the case's own fields. -/
theorem splitCase?_ofJson {field case : String} (hfield : field ∉ keys ms) :
    splitCase? field (.ofJson (.object ((field, .string case) :: ms)))
      = some (case, .ofJson (.object ms)) := by
  have hrest : ∀ m ∈ Source.ofMembers ms, m.1 ≠ field := by
    intro m hm hmf
    rw [Source.ofMembers_eq_map] at hm
    obtain ⟨m', hm', rfl⟩ := List.mem_map.1 hm
    exact hfield (hmf ▸ List.mem_map_of_mem hm')
  have hcase : (Source.ofMembers ms).filter (fun m => m.1 == field) = [] :=
    List.filter_eq_nil_iff.2 fun m hm => by simpa using hrest m hm
  have hothers : (Source.ofMembers ms).filter (fun m => m.1 != field) = Source.ofMembers ms :=
    List.filter_eq_self.2 fun m hm => by simpa using hrest m hm
  rw [splitCase?, Source.whole?_ofJson]
  simp [Source.ofJson, Source.ofMembers, hcase, hothers]

end CellRecipe.Json
