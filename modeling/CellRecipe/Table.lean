import CellRecipe.Document
import CellRecipe.Json.Record

/-!
# Tables keyed by text

A finite map from strings that is kept in the order of its keys, so that equal tables are written
alike whatever the order of the insertions. The keys are in code point order.

A table is written as an object whose members are in the order of the keys. When an object is read
as a table its members may be in any order, and of a repeated key the last value counts.

## Main definitions

* `Table.insert`, `Table.get?`: setting the value at a key, and finding it.
* `Table.document`, `Table.ofJson?`: the written form and back.

## Main results

* `Table.get?_insert`: an insertion changes the value at its own key and no other.
* `Table.ofList_entries`: a table is the table of its entries.
-/

namespace CellRecipe

/-- A map from strings, its entries in the order of their keys. -/
structure Table (α : Type) where
  entries : List (String × α)
  ordered : entries.Pairwise (fun a b => a.1 < b.1)

namespace Table

variable {α : Type}

/-- The table without entries. -/
def empty : Table α := ⟨[], List.Pairwise.nil⟩

instance : Inhabited (Table α) := ⟨empty⟩

instance [DecidableEq α] : DecidableEq (Table α) := fun s t =>
  decidable_of_iff (s.entries = t.entries) (by cases s; cases t; simp)

/-- Two strings of which neither is before the other are equal. -/
theorem eq_of_not_lt {a b : String} (h : ¬ a < b) (h' : ¬ b < a) : a = b :=
  String.le_antisymm (String.not_lt.1 h') (String.not_lt.1 h)

/-- The entries with `key` set, in order if they were. -/
def insertEntry (key : String) (value : α) : List (String × α) → List (String × α)
  | [] => [(key, value)]
  | (k, v) :: rest =>
    if key < k then (key, value) :: (k, v) :: rest
    else if k < key then (k, v) :: insertEntry key value rest
    else (key, value) :: rest

theorem mem_insertEntry {key : String} {value : α} {es : List (String × α)} {e : String × α}
    (h : e ∈ insertEntry key value es) : e = (key, value) ∨ e ∈ es := by
  induction es with
  | nil => simp only [insertEntry, List.mem_singleton] at h; exact .inl h
  | cons x rest ih =>
    obtain ⟨k, v⟩ := x
    rw [insertEntry] at h
    split at h
    · rcases List.mem_cons.1 h with h | h
      · exact .inl h
      · exact .inr h
    · split at h
      · rcases List.mem_cons.1 h with h | h
        · exact .inr (h ▸ List.mem_cons_self)
        · exact (ih h).imp id (List.mem_cons_of_mem _)
      · rcases List.mem_cons.1 h with h | h
        · exact .inl h
        · exact .inr (List.mem_cons_of_mem _ h)

theorem ordered_insertEntry {es : List (String × α)} (h : es.Pairwise (fun a b => a.1 < b.1))
    (key : String) (value : α) : (insertEntry key value es).Pairwise (fun a b => a.1 < b.1) := by
  induction es with
  | nil => exact List.pairwise_singleton _ _
  | cons x rest ih =>
    obtain ⟨k, v⟩ := x
    have hk : ∀ {e : String × α}, e ∈ rest → k < e.1 := List.rel_of_pairwise_cons h
    have hrest := List.Pairwise.of_cons h
    rw [insertEntry]
    split
    · next hlt =>
      refine List.Pairwise.cons (fun e he => ?_) h
      rcases List.mem_cons.1 he with rfl | he
      · exact hlt
      · exact String.lt_trans hlt (hk he)
    · next hnlt =>
      split
      · next hlt =>
        refine List.Pairwise.cons (fun e he => ?_) (ih hrest)
        rcases mem_insertEntry he with rfl | he
        · exact hlt
        · exact hk he
      · next hnlt' =>
        have e : key = k := eq_of_not_lt hnlt hnlt'
        exact List.Pairwise.cons (fun e' he => by simpa [e] using hk he) hrest

/-- The table with `key` set to `value`. -/
def insert (t : Table α) (key : String) (value : α) : Table α :=
  ⟨insertEntry key value t.entries, ordered_insertEntry t.ordered key value⟩

/-- The value at a key. -/
def get? (t : Table α) (key : String) : Option α := t.entries.lookup key

/-- How many keys the table has. -/
def size (t : Table α) : Nat := t.entries.length

/-- The table of the given entries, inserted one after the other. -/
def ofList (es : List (String × α)) : Table α :=
  es.foldl (fun t e => t.insert e.1 e.2) empty

theorem lookup_cons (e : String × α) (es : List (String × α)) (k : String) :
    (e :: es).lookup k = if k = e.1 then some e.2 else es.lookup k := by
  obtain ⟨a, v⟩ := e
  rw [List.lookup_cons]
  by_cases h : k = a
  · simp [h]
  · rw [beq_eq_false_iff_ne.2 h, if_neg h]

theorem lookup_insertEntry (key : String) (value : α) (es : List (String × α)) (k : String) :
    (insertEntry key value es).lookup k = if k = key then some value else es.lookup k := by
  induction es with
  | nil => simp [insertEntry, lookup_cons]
  | cons x rest ih =>
    obtain ⟨a, v⟩ := x
    rw [insertEntry]
    split
    · simp [lookup_cons]
    · next hnlt =>
      split
      · next hlt =>
        have hne : ¬ a = key := fun e => String.lt_irrefl key (e ▸ hlt)
        simp only [lookup_cons, ih]
        by_cases e : k = a
        · simp [e, hne]
        · simp [e]
      · next hnlt' =>
        have ea : key = a := eq_of_not_lt hnlt hnlt'
        simp only [lookup_cons, ea]
        split <;> rfl

theorem get?_insert (t : Table α) (key : String) (value : α) (k : String) :
    (t.insert key value).get? k = if k = key then some value else t.get? k :=
  lookup_insertEntry key value t.entries k

/-- Setting a key that is after all others puts its entry at the end. -/
theorem insertEntry_of_all_lt {es : List (String × α)} {key : String}
    (h : ∀ e ∈ es, e.1 < key) (value : α) : insertEntry key value es = es ++ [(key, value)] := by
  induction es with
  | nil => rfl
  | cons x rest ih =>
    obtain ⟨k, v⟩ := x
    have hk : k < key := h _ List.mem_cons_self
    simp [insertEntry, String.lt_asymm hk, hk,
      ih fun e he => h e (List.mem_cons_of_mem _ he)]

private theorem entries_foldl_insert (es : List (String × α)) (t : Table α)
    (h : (t.entries ++ es).Pairwise (fun a b => a.1 < b.1)) :
    (es.foldl (fun t e => t.insert e.1 e.2) t).entries = t.entries ++ es := by
  induction es generalizing t with
  | nil => simp
  | cons e rest ih =>
    have hlt : ∀ x ∈ t.entries, x.1 < e.1 := fun x hx =>
      (List.pairwise_append.1 h).2.2 x hx e List.mem_cons_self
    have hins : (t.insert e.1 e.2).entries = t.entries ++ [e] :=
      insertEntry_of_all_lt hlt e.2
    rw [List.foldl_cons, ih, hins, List.append_assoc]
    · rfl
    · rw [hins, List.append_assoc]; exact h

/-- A table is the table of its entries. -/
@[simp] theorem ofList_entries (t : Table α) : ofList t.entries = t := by
  obtain ⟨es, h⟩ := t
  have e : (ofList es).entries = es := by
    simpa [ofList, empty] using entries_foldl_insert es empty (by simpa [empty] using h)
  cases ht : ofList es with
  | mk es' h' => rw [ht] at e; cases e; simp

/-! ## Written form -/

/-- The table as it is written. -/
def document (value : α → Document) (t : Table α) : Document :=
  .record (t.entries.map fun e => (e.1, value e.2))

/-- The table that an object stands for. -/
def ofJson? (value : Json.Source → Option α) : Json.Source → Option (Table α)
  | .object ms => (ms.mapM fun m => (value m.2).map fun v => (m.1, v)).map ofList
  | _ => none

end Table

end CellRecipe
