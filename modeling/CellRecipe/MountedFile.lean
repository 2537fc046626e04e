import CellRecipe.Document
import CellRecipe.Json.Record
import Std.Data.HashMap

/-!
# Files mounted into a container

A file is a path and a content. A `FileSet` collects the files that are written one after the other:
a later write to a path replaces the content but keeps the place of the first one, and the bytes of
every write count, also of those that were replaced.

## Main definitions

* `FileSet.insert`: one more write.
* `FileSet.ofWrites`: the set after a sequence of writes.

## Main results

* `FileSet.totalBytes_ofWrites`: the bytes of all writes.
-/

namespace CellRecipe

/-- A file of the container. -/
structure MountedFile where
  path : String
  content : String
  deriving DecidableEq, Inhabited

namespace MountedFile

/-- The bytes of the path and of the content. -/
def byteSize (f : MountedFile) : Nat := f.path.utf8ByteSize + f.content.utf8ByteSize

/-- The bytes of all files. -/
def totalSize : List MountedFile → Nat
  | [] => 0
  | f :: rest => f.byteSize + totalSize rest

/-- The file as it is written. -/
def document (f : MountedFile) : Document :=
  .record [("path", .text f.path), ("content", .text f.content)]

/-- The file that a JSON value stands for. -/
def ofJson? (j : Json.Source) : Option MountedFile := do
  let r ← Json.Record.of? ["path", "content"] j
  return {
    path := ← r.required "path" Json.text?
    content := ← r.required "content" Json.text? }

end MountedFile

/-- Files with an index of their paths, and the bytes of all writes. -/
structure FileSet where
  files : Array MountedFile
  positions : Std.HashMap String Nat
  totalBytes : Nat
  placed : ∀ (path : String) (i : Nat),
    positions[path]? = some i ↔ ∃ h : i < files.size, files[i].path = path

namespace FileSet

/-- The set before any write. -/
def empty : FileSet where
  files := #[]
  positions := ∅
  totalBytes := 0
  placed := by simp

instance : Inhabited FileSet := ⟨empty⟩

private theorem placed_set {files : Array MountedFile} {positions : Std.HashMap String Nat}
    (placed : ∀ (path : String) (i : Nat),
      positions[path]? = some i ↔ ∃ h : i < files.size, files[i].path = path)
    (file : MountedFile) {k : Nat} (hk : k < files.size) (hpath : files[k].path = file.path)
    (path : String) (i : Nat) :
    positions[path]? = some i
      ↔ ∃ h : i < (files.set k file hk).size, (files.set k file hk)[i].path = path := by
  rw [placed]
  simp only [Array.size_set, Array.getElem_set]
  constructor
  · rintro ⟨h, e⟩
    refine ⟨h, ?_⟩
    split
    · next hki => subst hki; rw [← hpath, e]
    · exact e
  · rintro ⟨h, e⟩
    refine ⟨h, ?_⟩
    split at e
    · next hki => subst hki; rw [hpath, e]
    · exact e

private theorem placed_push {files : Array MountedFile} {positions : Std.HashMap String Nat}
    (placed : ∀ (path : String) (i : Nat),
      positions[path]? = some i ↔ ∃ h : i < files.size, files[i].path = path)
    (file : MountedFile) (hnew : positions[file.path]? = none) (path : String) (i : Nat) :
    (positions.insert file.path files.size)[path]? = some i
      ↔ ∃ h : i < (files.push file).size, (files.push file)[i].path = path := by
  have hfresh : ∀ (j : Nat) (h : j < files.size), files[j].path ≠ file.path := fun j h e => by
    have := (placed file.path j).2 ⟨h, e⟩
    rw [hnew] at this
    exact Option.some_ne_none _ this.symm
  rw [Std.HashMap.getElem?_insert]
  by_cases e : file.path = path
  · subst e
    simp only [beq_self_eq_true, if_true, Option.some.injEq, Array.size_push, Array.getElem_push]
    constructor
    · rintro rfl
      exact ⟨Nat.lt_succ_self _, by simp⟩
    · rintro ⟨h, hp⟩
      split at hp
      · next hi => exact absurd hp (hfresh i hi)
      · next hi => exact (Nat.le_antisymm (Nat.le_of_lt_succ h) (Nat.le_of_not_lt hi)).symm
  · simp only [beq_iff_eq, e, if_false, placed, Array.size_push, Array.getElem_push]
    constructor
    · rintro ⟨h, hp⟩
      exact ⟨Nat.lt_succ_of_lt h, by simpa [h] using hp⟩
    · rintro ⟨h, hp⟩
      split at hp
      · next hi => exact ⟨hi, hp⟩
      · exact absurd hp e

/-- The set after one more write. -/
def insert (s : FileSet) (file : MountedFile) : FileSet :=
  match h : s.positions[file.path]? with
  | some i =>
    { files := s.files.set i file ((s.placed _ _).1 h).1
      positions := s.positions
      totalBytes := s.totalBytes + file.byteSize
      placed := placed_set s.placed file _ ((s.placed _ _).1 h).2 }
  | none =>
    { files := s.files.push file
      positions := s.positions.insert file.path s.files.size
      totalBytes := s.totalBytes + file.byteSize
      placed := placed_push s.placed file h }

/-- The set after a sequence of writes. -/
def ofWrites (writes : List MountedFile) : FileSet := writes.foldl insert empty

theorem totalBytes_insert (s : FileSet) (file : MountedFile) :
    (s.insert file).totalBytes = s.totalBytes + file.byteSize := by
  unfold insert
  split <;> rfl

private theorem totalBytes_foldl_insert (writes : List MountedFile) (s : FileSet) :
    (writes.foldl insert s).totalBytes
      = s.totalBytes + MountedFile.totalSize writes := by
  induction writes generalizing s with
  | nil => rfl
  | cons w rest ih =>
    rw [List.foldl_cons, ih, totalBytes_insert, MountedFile.totalSize, Nat.add_assoc]

/-- Every write counts, also one that was replaced. -/
theorem totalBytes_ofWrites (writes : List MountedFile) :
    (ofWrites writes).totalBytes = MountedFile.totalSize writes := by
  rw [ofWrites, totalBytes_foldl_insert]
  exact Nat.zero_add _

end FileSet

end CellRecipe
