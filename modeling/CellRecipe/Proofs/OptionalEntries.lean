import CellRecipe.Proofs.JsonRecord
import Mathlib.Data.List.Forall2

/-!
# Records with entries that may be left out

Some records are written without the fields that have no value. Which keys such a record has depends
on the value, so a field is found by its place in the list of entries: the entries and the names of
the fields go side by side (`Labelled`), and an entry that is there stands under its own name. The
names are distinct, so what the record has under a name is what the entry with that name says, and
nothing if the entry is left out.

## Main definitions

* `Document.Labelled`: the entries go by these names.
* `Document.WritesAllBut`: a value is written with these fields, but for those left out.

## Main results

* `Document.keys_written`: the keys of a record are the names of the entries that are there.
* `Document.Labelled.member?`: what the record has under a name.
* `Document.Labelled.required`, `Document.Labelled.optional`, `Document.Labelled.list`: a field
  that was written, or left out, is read back.
-/

namespace CellRecipe.Document

open Json

variable {α : Type} {entries : List Entry} {names : List String}

/-- The members of the entries that are there. -/
def written (entries : List Entry) : Members := membersToJson (entries.filterMap id)

theorem toJson_ofEntries (entries : List Entry) :
    (ofEntries entries).toJson = .object (written entries) := by
  rw [ofEntries, toJson]
  rfl

theorem written_some (m : String × Document) (rest : List Entry) :
    written (some m :: rest) = (m.1, m.2.toJson) :: written rest := rfl

/-- An entry that is there goes by the name. -/
def Entry.GoesBy (e : Entry) (name : String) : Prop := ∀ m ∈ e, m.1 = name

namespace Entry

@[simp] theorem always_goesBy (name : String) (value : Document) :
    (always name value).GoesBy name := by
  rintro m ⟨⟩
  rfl

@[simp] theorem ifSome_goesBy (name : String) (value : α → Document) (found : Option α) :
    (ifSome name value found).GoesBy name := by
  intro m hm
  obtain ⟨x, -, rfl⟩ := Option.map_eq_some_iff.1 hm
  rfl

@[simp] theorem ifAny_goesBy (name : String) (item : α → Document) (items : List α) :
    (ifAny name item items).GoesBy name := by
  intro m hm
  rw [ifAny] at hm
  split at hm
  · cases hm
  · obtain rfl := Option.some.inj hm
    rfl

@[simp] theorem isSome_always (name : String) (value : Document) :
    (always name value).isSome = true := rfl

@[simp] theorem isSome_ifSome (name : String) (value : α → Document) (found : Option α) :
    (ifSome name value found).isSome = found.isSome := by
  cases found <;> rfl

@[simp] theorem isSome_ifAny (name : String) (item : α → Document) (items : List α) :
    (ifAny name item items).isSome = !items.isEmpty := by
  rw [ifAny]
  split
  · next h => rw [h]; rfl
  · next h => rw [Bool.eq_false_iff.2 h]; rfl

end Entry

/-- Every entry goes by the name at its place, and no two names are equal. -/
structure Labelled (entries : List Entry) (names : List String) : Prop where
  named : List.Forall₂ Entry.GoesBy entries names
  distinct : names.Nodup

/-! ## Keys -/

theorem keys_written (h : List.Forall₂ Entry.GoesBy entries names) :
    keys (written entries) = ((names.zip entries).filter fun p => p.2.isSome).map (·.1) := by
  induction h with
  | nil => rfl
  | @cons e name es ns he _ ih =>
      cases e with
      | none => exact ih
      | some m =>
          have hm : m.1 = name := he m rfl
          rw [written_some, List.zip_cons_cons, List.filter_cons_of_pos rfl, List.map_cons, ← ih,
            ← hm]
          rfl

theorem map_fst_zip_entries (h : List.Forall₂ Entry.GoesBy entries names) :
    (names.zip entries).map (·.1) = names :=
  List.map_fst_zip (Nat.le_of_eq h.length_eq.symm)

theorem keys_written_sublist (h : List.Forall₂ Entry.GoesBy entries names) :
    (keys (written entries)).Sublist names := by
  have hsublist : (((names.zip entries).filter fun p => p.2.isSome).map (·.1)).Sublist
      ((names.zip entries).map (·.1)) := List.filter_sublist.map _
  rwa [← keys_written h, map_fst_zip_entries h] at hsublist

/-- Every value is written with these fields, in order, but for those that it leaves out. -/
def WritesAllBut (write : α → Document) (names : List String) (leftOut : α → String → Bool) :
    Prop :=
  ∀ x, ∃ ms, (write x).toJson = .object ms ∧ keys ms = names.filter fun name => !leftOut x name

theorem exists_written (h : Labelled entries names) {leftOut : String → Bool}
    (hout : ∀ p ∈ names.zip entries, p.2.isSome = !leftOut p.1) :
    ∃ ms, (ofEntries entries).toJson = .object ms ∧
      keys ms = names.filter fun name => !leftOut name := by
  refine ⟨written entries, toJson_ofEntries entries, ?_⟩
  calc keys (written entries)
      = ((names.zip entries).filter fun p => p.2.isSome).map (·.1) := keys_written h.named
    _ = ((names.zip entries).filter fun p => !leftOut p.1).map (·.1) := by
        rw [List.filter_congr hout]
    _ = ((names.zip entries).map (·.1)).filter fun name => !leftOut name := by
        rw [List.filter_map]
        rfl
    _ = names.filter fun name => !leftOut name := by rw [map_fst_zip_entries h.named]

/-! ## Members -/

/-- A name that no entry goes by is no key of the record. -/
theorem member?_written_of_not_mem (h : List.Forall₂ Entry.GoesBy entries names) {name : String}
    (hname : name ∉ names) : Json.member? (written entries) name = none := by
  have hkeys : name ∉ keys (written entries) := fun hm =>
    hname ((keys_written_sublist h).subset hm)
  rw [Json.member?, List.lookup_eq_none_iff]
  intro m hm
  have hne : name ≠ m.1 := fun e => hkeys (e ▸ List.mem_map_of_mem hm)
  simpa using hne

namespace Labelled

theorem member? (h : Labelled entries names) {name : String} {e : Entry}
    (hl : (names.zip entries).lookup name = some e) :
    Json.member? (written entries) name = e.map fun m => m.2.toJson := by
  obtain ⟨named, distinct⟩ := h
  induction named with
  | nil => cases hl
  | @cons first n es ns hfirst hrest ih =>
      obtain ⟨hn, distinct⟩ := List.nodup_cons.1 distinct
      rw [List.zip_cons_cons, List.lookup_cons] at hl
      cases hname : name == n with
      | false =>
          -- The name is another one, so the first entry has no say.
          rw [hname] at hl
          cases first with
          | none => exact ih hl distinct
          | some m =>
              have hm : m.1 = n := hfirst m rfl
              rw [written_some, Json.member?, List.lookup_cons, hm, hname]
              exact ih hl distinct
      | true =>
          rw [hname] at hl
          obtain rfl := eq_of_beq hname
          obtain rfl := Option.some.inj hl
          cases first with
          | none => exact member?_written_of_not_mem hrest hn
          | some m =>
              have hm : m.1 = name := hfirst m rfl
              rw [written_some, Json.member?, List.lookup_cons, hm, hname]
              rfl

/-! ## Fields that are read back -/

/-- A record without some of its entries is still a record. -/
theorem record (h : Labelled entries names) :
    Record.of? names (.ofJson (ofEntries entries).toJson) = some (.ofObject (written entries)) := by
  rw [toJson_ofEntries]
  exact of?_ofJson_object names (h.distinct.sublist (keys_written_sublist h.named))

variable {read : Source → Option α} {write : α → Document} {name : String} {x : α}

theorem required (h : Labelled entries names) (hread : Reads read write)
    (hl : (names.zip entries).lookup name = some (.always name (write x))) :
    (Record.ofObject (written entries)).required name read = some x :=
  required_eq hread (h.member? hl)

theorem withDefault (h : Labelled entries names) {default : α} (hread : Reads read write)
    (hl : (names.zip entries).lookup name = some (.always name (write x))) :
    (Record.ofObject (written entries)).withDefault name default read = some x :=
  withDefault_eq default hread (h.member? hl)

/-- What is left out is read as a value that is not there. -/
theorem optional (h : Labelled entries names) {found : Option α}
    (hread : Reads (orNull? read) (Document.orNull write))
    (hl : (names.zip entries).lookup name = some (.ifSome name write found)) :
    (Record.ofObject (written entries)).optional name read = some found := by
  have hm := h.member? hl
  cases found with
  | none => exact optional_of_absent read hm
  | some x =>
      have hx : Json.member? (written entries) name
          = some (Document.orNull write (some x)).toJson := hm
      exact optional_eq hread hx

/-- A list that is left out is read as the empty one. -/
theorem list (h : Labelled entries names) {xs : List α} (hread : Reads read write)
    (hl : (names.zip entries).lookup name = some (.ifAny name write xs)) :
    (Record.ofObject (written entries)).withDefault name [] (list? read) = some xs := by
  have hm := h.member? hl
  cases xs with
  | nil => exact withDefault_of_absent [] _ hm
  | cons x rest => exact withDefault_eq [] (reads_list hread) hm

end Labelled

end CellRecipe.Document
