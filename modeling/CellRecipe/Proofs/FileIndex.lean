import CellRecipe.Proofs.FileSet

/-!
# The index of a file set

A set of files has three parts: the files in the order of their first writes, an index from paths to
places, and a count of bytes. A write trusts the index: it takes the place that the index gives and
writes over what stands there. So the index has to be right after every write, or a later one spoils
another file or goes past the last one.

`FileSet.Parts` has the same three parts and promises nothing of them, and a write to it fails at a
place behind the last file. Writes that begin with no file never fail and come to the parts of the
set. What these are is said by the writes alone: the files are what is left of them, the index finds
each path where it stands, and the count is the size of all writes. That is more than the size of
the files as soon as a write replaces a file with bytes in it.

## Main definitions

* `FileSet.Parts`: files, index and count without a promise.
* `FileSet.OrderedMapOf`: a map from paths to contents in the order of insertion.

## Main results

* `FileSet.getElem?_positions`: the index, without hashing.
* `FileSet.foldlM_write?_parts`: no write goes past the files.
* `FileSet.orderedMapOf_ofWrites`: a set after any sequence of writes.
-/

namespace CellRecipe.FileSet

open MountedFile

/-! ## Writes without a promise -/

/-- The parts of a set, where the index need not fit the files. -/
structure Parts where
  files : Array MountedFile
  positions : Std.HashMap String Nat
  totalBytes : Nat

/-- The parts of a set. -/
def parts (s : FileSet) : Parts := ⟨s.files, s.positions, s.totalBytes⟩

/-- The parts after one more write. It fails if the index gives a place behind the last file. -/
def Parts.write? (p : Parts) (file : MountedFile) : Option Parts :=
  match p.positions[file.path]? with
  | some i =>
    if h : i < p.files.size then
      some ⟨p.files.set i file h, p.positions, p.totalBytes + file.byteSize⟩
    else none
  | none =>
    some ⟨p.files.push file, p.positions.insert file.path p.files.size,
      p.totalBytes + file.byteSize⟩

/-- A write to the parts of a set does what the set does. -/
theorem write?_parts (s : FileSet) (file : MountedFile) :
    s.parts.write? file = some (s.insert file).parts := by
  unfold insert
  split
  · next i h =>
      have hi : i < s.files.size := ((s.placed _ _).1 h).1
      simp only [Parts.write?, parts, h]
      exact dif_pos hi
  · next h => simp only [Parts.write?, parts, h]

/-- A sequence of writes to the parts of a set never fails. -/
theorem foldlM_write?_parts (writes : List MountedFile) (s : FileSet) :
    writes.foldlM Parts.write? s.parts = some (writes.foldl insert s).parts := by
  induction writes generalizing s with
  | nil => rfl
  | cons w rest ih =>
      rw [List.foldlM_cons, write?_parts]
      exact ih (s.insert w)

/-! ## The index -/

/-- The index gives a path the first place at which it stands among the files. -/
theorem getElem?_positions (s : FileSet) (p : String) :
    s.positions[p]? = (s.files.toList.map path).idxOf? p := by
  ext i
  rw [s.placed, List.idxOf?_eq_some_iff]
  constructor
  · rintro ⟨hi, hpath⟩
    refine ⟨by simpa using hi, by simpa using hpath, ?_⟩
    intro j hj e
    -- Another place with this path would be in the index too.
    have hplaced : s.positions[p]? = some i := (s.placed p i).2 ⟨hi, hpath⟩
    have hplaced' : s.positions[p]? = some j :=
      (s.placed p j).2 ⟨Nat.lt_trans hj hi, by simpa using e⟩
    have hij : i = j := Option.some.inj (hplaced.symm.trans hplaced')
    omega
  · rintro ⟨hi, hpath, -⟩
    exact ⟨by simpa using hi, by simpa using hpath⟩

/-! ## The set as a map -/

/-- A set is the map, in the order of insertion, of a sequence of writes. -/
structure OrderedMapOf (writes : List MountedFile) (s : FileSet) : Prop where
  /-- No two files have one path. -/
  distinct : (s.files.toList.map path).Nodup
  /-- The index has the paths of the files, each with its place, and no others. -/
  index : ∀ p, s.positions[p]? = (s.files.toList.map path).idxOf? p
  /-- No write went to a place that the files do not have. -/
  unfailing : writes.foldlM Parts.write? empty.parts = some s.parts
  /-- The paths are those of the writes, by first write, and each file is the last one written. -/
  left : LeftOf writes s.files.toList
  /-- The bytes of all writes are counted. -/
  counted : s.totalBytes = totalSize writes
  /-- The files have no more bytes than that. -/
  covered : totalSize s.files.toList ≤ s.totalBytes
  /-- They have as many exactly when what is replaced is empty, or nothing is. -/
  tight : totalSize s.files.toList = s.totalBytes
    ↔ (∀ f, Replaced writes f → f.byteSize = 0) ∨ (writes.map path).Nodup

/--
**A set is an ordered map.** After any sequence of writes its files are those of a map from paths to
contents that keeps the order of insertion, its index finds them, and its count tells the bytes of
everything that was written.
-/
theorem orderedMapOf_ofWrites (writes : List MountedFile) :
    OrderedMapOf writes (ofWrites writes) := by
  have hfiles : (ofWrites writes).files.toList = kept writes := toList_ofWrites writes
  have hbytes : (ofWrites writes).totalBytes = totalSize writes := totalBytes_ofWrites writes
  have hleft : LeftOf writes (ofWrites writes).files.toList := by
    rw [hfiles]
    exact leftOf_kept writes
  refine
    { distinct := hleft.nodup
      index := getElem?_positions _
      unfailing := foldlM_write?_parts writes empty
      left := hleft
      counted := hbytes
      covered := ?_
      tight := ?_ }
  · rw [hfiles, hbytes]
    exact totalSize_kept_le writes
  · rw [hfiles, hbytes, totalSize_kept_eq_iff]
    refine ⟨.inl, ?_⟩
    rintro (hreplaced | hnodup)
    · exact hreplaced
    · exact fun f hf => absurd hf (not_replaced_of_nodup hnodup f)

/-- A path that is written twice keeps its place, and all three writes count. -/
example : (ofWrites [⟨"a/x", "first"⟩, ⟨"a/y", "second"⟩, ⟨"a/x", "third"⟩]).files.toList
      = [⟨"a/x", "third"⟩, ⟨"a/y", "second"⟩] ∧
    (ofWrites [⟨"a/x", "first"⟩, ⟨"a/y", "second"⟩, ⟨"a/x", "third"⟩]).totalBytes = 25 := by
  rw [toList_ofWrites, totalBytes_ofWrites]
  decide

end CellRecipe.FileSet
