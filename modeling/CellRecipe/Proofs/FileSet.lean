import CellRecipe.MountedFile
import Mathlib.Algebra.GroupWithZero.Nat
import Mathlib.Data.List.Nodup

/-!
# Files after a sequence of writes

A `FileSet` finds the place of a path in an index. Without the index, a write replaces the file of
its path where it stands, or adds one at the end (`MountedFile.put`), and the files of a set are
what is left of its writes when they are put one after the other. What holds of the files of a set
is proved of `MountedFile.put` first, and then of a whole sequence of writes.

A write that is not left has been replaced by a later one. So the bytes of all writes are those of
the files that are left and those of the replaced ones.

## Main definitions

* `FirstOccurrences`: the values of a list, each once.
* `MountedFile.LeftOf`: what is left of a sequence of writes, said without `put`.
* `MountedFile.Replaced`, `MountedFile.replaced`: the writes that a later one replaces.

## Main results

* `FileSet.toList_ofWrites`: the files of a set, without the index.
* `MountedFile.leftOf_kept`: one file for each path, in the order of the first writes and with the
  content of the last ones.
* `MountedFile.kept_append`: writes that share no path do not get in each other's way.
* `MountedFile.kept_append_replaced_perm`: every write is left or replaced.
* `MountedFile.totalSize_kept_le`, `MountedFile.totalSize_kept_eq_iff`: the files that are left have
  no more bytes than all the writes, and when they have as many.
-/

namespace CellRecipe

/-! ## First occurrences -/

/-- The values of a list, each of them once and in the order in which they first occur. -/
structure FirstOccurrences [BEq α] (all kept : List α) : Prop where
  mem : ∀ x, x ∈ kept ↔ x ∈ all
  order : kept.Pairwise fun x y => all.idxOf x < all.idxOf y

theorem FirstOccurrences.nodup [BEq α] {all kept : List α} (h : FirstOccurrences all kept) :
    kept.Nodup :=
  h.order.imp fun hlt e => absurd hlt (by rw [e]; exact Nat.lt_irrefl _)

/-- One more value goes to the end, unless it is there. -/
theorem FirstOccurrences.add [DecidableEq α] {all kept : List α} (h : FirstOccurrences all kept)
    (x : α) : FirstOccurrences (all ++ [x]) (if x ∈ kept then kept else kept ++ [x]) := by
  -- The first occurrence of a value stays the first one.
  have hidx : ∀ y ∈ kept, (all ++ [x]).idxOf y = all.idxOf y := by
    intro y hy
    exact List.idxOf_append_of_mem ((h.mem y).1 hy)
  have hkept : kept.Pairwise fun y z => (all ++ [x]).idxOf y < (all ++ [x]).idxOf z := by
    refine List.Pairwise.imp_of_mem ?_ h.order
    intro y z hy hz hlt
    rwa [hidx y hy, hidx z hz]
  by_cases hx : x ∈ kept
  · rw [if_pos hx]
    have hmem : ∀ y, y ∈ kept ↔ y ∈ all ++ [x] := by
      intro y
      rw [List.mem_append, ← h.mem y, List.mem_singleton, or_iff_left_of_imp]
      intro e
      rwa [e]
    exact ⟨hmem, hkept⟩
  · rw [if_neg hx]
    have hmem : ∀ y, y ∈ kept ++ [x] ↔ y ∈ all ++ [x] := by
      intro y
      rw [List.mem_append, List.mem_append, h.mem y]
    have hlast : ∀ y ∈ kept, (all ++ [x]).idxOf y < (all ++ [x]).idxOf x := by
      intro y hy
      have hnew : x ∉ all := fun hall => hx ((h.mem x).2 hall)
      rw [hidx y hy, List.idxOf_append_of_notMem hnew]
      exact Nat.lt_add_right _ (List.idxOf_lt_length_iff.2 ((h.mem y).1 hy))
    refine ⟨hmem, List.pairwise_append.2 ⟨hkept, List.pairwise_singleton _ _, ?_⟩⟩
    intro y hy z hz
    rw [List.mem_singleton.1 hz]
    exact hlast y hy

/-- Lists with the same values have the same first occurrences. -/
theorem FirstOccurrences.perm [BEq α] {all kept all' kept' : List α}
    (h : FirstOccurrences all kept) (h' : FirstOccurrences all' kept') (hall : all.Perm all') :
    kept.Perm kept' := by
  rw [List.perm_ext_iff_of_nodup h.nodup h'.nodup]
  intro x
  rw [h.mem, h'.mem, hall.mem_iff]

/-! ## Writes -/

namespace MountedFile

/-- The files after one more write: in the place of the file with its path, or at the end. -/
def put (file : MountedFile) : List MountedFile → List MountedFile
  | [] => [file]
  | f :: rest => if f.path = file.path then file :: rest else f :: put file rest

/-- The files that are left of a sequence of writes. -/
def kept (writes : List MountedFile) : List MountedFile :=
  writes.foldl (fun files file => put file files) []

theorem put_of_not_mem {file : MountedFile} {files : List MountedFile}
    (h : ∀ f ∈ files, f.path ≠ file.path) : put file files = files ++ [file] := by
  induction files with
  | nil => rfl
  | cons f rest ih =>
      have hf : f.path ≠ file.path := h f List.mem_cons_self
      have hrest : ∀ g ∈ rest, g.path ≠ file.path := fun g hg => h g (List.mem_cons_of_mem f hg)
      rw [put, if_neg hf, ih hrest]
      rfl

/-- A write goes to the first place that has its path. -/
theorem put_of_getElem {file : MountedFile} {files : List MountedFile} {i : Nat}
    (hi : i < files.length) (hpath : files[i].path = file.path)
    (hfirst : ∀ (j : Nat) (hj : j < files.length), files[j].path = file.path → j = i) :
    put file files = files.set i file := by
  induction files generalizing i with
  | nil => exact absurd hi (Nat.not_lt_zero i)
  | cons f rest ih =>
      cases i with
      | zero =>
          have hf : f.path = file.path := hpath
          rw [put, if_pos hf]
          rfl
      | succ k =>
          have hf : f.path ≠ file.path := by
            intro e
            have hzero := hfirst 0 (Nat.zero_lt_succ _) e
            omega
          have hk : k < rest.length := Nat.lt_of_succ_lt_succ hi
          have hrest : ∀ (j : Nat) (hj : j < rest.length), rest[j].path = file.path → j = k := by
            intro j hj e
            have hsucc := hfirst (j + 1) (Nat.succ_lt_succ hj) e
            omega
          rw [put, if_neg hf, ih hk hpath hrest]
          rfl

/-! ### What is left -/

/-- A file that no later write replaces. -/
def LastOf (writes : List MountedFile) (f : MountedFile) : Prop :=
  ∃ before after, writes = before ++ f :: after ∧ ∀ g ∈ after, g.path ≠ f.path

/-- The files that are left of a sequence of writes: one for each path that was written, in the
order of the first writes to the paths, and each as it was written last. -/
structure LeftOf (writes files : List MountedFile) : Prop where
  paths : ∀ p, p ∈ files.map path ↔ p ∈ writes.map path
  order : (files.map path).Pairwise fun p q =>
    (writes.map path).idxOf p < (writes.map path).idxOf q
  last : ∀ f ∈ files, LastOf writes f

/-- A write adds its path at the end, unless it is there. -/
theorem paths_put (file : MountedFile) (files : List MountedFile) :
    (put file files).map path
      = if file.path ∈ files.map path then files.map path
        else files.map path ++ [file.path] := by
  induction files with
  | nil => rfl
  | cons f rest ih =>
      rw [put]
      by_cases hf : f.path = file.path
      · simp [hf]
      · have hne : file.path ≠ f.path := fun e => hf e.symm
        rw [if_neg hf, List.map_cons, ih]
        by_cases hmem : file.path ∈ rest.map path <;> simp [hmem, hne]

/-- Where no path stands twice, a file that stays has another path than the file that is written. -/
theorem eq_or_mem_of_mem_put {f file : MountedFile} {files : List MountedFile}
    (distinct : (files.map path).Nodup) (h : f ∈ put file files) :
    f = file ∨ f ∈ files ∧ file.path ≠ f.path := by
  induction files with
  | nil => exact .inl (List.mem_singleton.1 h)
  | cons g rest ih =>
      obtain ⟨hg, hrest⟩ := List.nodup_cons.1 distinct
      rw [put] at h
      by_cases hpath : g.path = file.path
      · rw [if_pos hpath] at h
        rcases List.mem_cons.1 h with rfl | h
        · exact .inl rfl
        · refine .inr ⟨List.mem_cons_of_mem g h, fun e => hg ?_⟩
          rw [hpath, e]
          exact List.mem_map_of_mem h
      · rw [if_neg hpath] at h
        rcases List.mem_cons.1 h with rfl | h
        · exact .inr ⟨List.mem_cons_self, fun e => hpath e.symm⟩
        · rcases ih hrest h with rfl | ⟨hf, hne⟩
          · exact .inl rfl
          · exact .inr ⟨List.mem_cons_of_mem g hf, hne⟩

/-- The paths that are left are those that were written, by first write. -/
theorem LeftOf.firstOccurrences {writes files : List MountedFile} (h : LeftOf writes files) :
    FirstOccurrences (writes.map path) (files.map path) :=
  ⟨h.paths, h.order⟩

theorem LeftOf.nodup {writes files : List MountedFile} (h : LeftOf writes files) :
    (files.map path).Nodup :=
  h.firstOccurrences.nodup

/-- A file stays the last of its path when another path is written. -/
theorem LastOf.append {writes : List MountedFile} {f : MountedFile} (h : LastOf writes f)
    {file : MountedFile} (hne : file.path ≠ f.path) : LastOf (writes ++ [file]) f := by
  obtain ⟨before, after, rfl, hafter⟩ := h
  refine ⟨before, after ++ [file], by simp, ?_⟩
  intro g hg
  rcases List.mem_append.1 hg with hg | hg
  · exact hafter g hg
  · rwa [List.mem_singleton.1 hg]

/-- One more write. -/
theorem LeftOf.put {writes files : List MountedFile} (h : LeftOf writes files)
    (file : MountedFile) : LeftOf (writes ++ [file]) (put file files) := by
  have hpaths : FirstOccurrences ((writes ++ [file]).map path)
      ((MountedFile.put file files).map path) := by
    rw [paths_put, List.map_append]
    exact h.firstOccurrences.add file.path
  refine ⟨hpaths.mem, hpaths.order, ?_⟩
  intro f hf
  rcases eq_or_mem_of_mem_put h.nodup hf with rfl | ⟨hf, hne⟩
  · exact ⟨writes, [], rfl, fun g hg => absurd hg List.not_mem_nil⟩
  · exact (h.last f hf).append hne

/-- A sequence of writes, whatever was written before. -/
theorem LeftOf.foldl_put {written files : List MountedFile} (h : LeftOf written files)
    (writes : List MountedFile) :
    LeftOf (written ++ writes)
      (writes.foldl (fun files file => MountedFile.put file files) files) := by
  induction writes generalizing written files with
  | nil =>
      rw [List.append_nil]
      exact h
  | cons w rest ih =>
      have hrest := ih (h.put w)
      rw [List.append_assoc] at hrest
      exact hrest

/-- What `kept` keeps is what is left of the writes. -/
theorem leftOf_kept (writes : List MountedFile) : LeftOf writes (kept writes) := by
  have hnil : LeftOf [] [] := ⟨by simp, by simp, by simp⟩
  exact hnil.foldl_put writes

/-- There is one last write to a path. -/
theorem LastOf.eq {writes : List MountedFile} {f g : MountedFile} (hf : LastOf writes f)
    (hg : LastOf writes g) (hpath : f.path = g.path) : f = g := by
  obtain ⟨before, after, rfl, hafter⟩ := hf
  obtain ⟨before', after', hsplit, hafter'⟩ := hg
  rcases List.append_eq_append_iff.1 hsplit with ⟨mid, hbefore, hmid⟩ | ⟨mid, hbefore, hmid⟩
  · cases mid with
    | nil => exact (List.cons.inj hmid).1
    | cons m mid =>
        obtain ⟨rfl, rfl⟩ := List.cons.inj hmid
        exact absurd hpath.symm (hafter g (by simp))
  · cases mid with
    | nil => exact (List.cons.inj hmid).1.symm
    | cons m mid =>
        obtain ⟨rfl, rfl⟩ := List.cons.inj hmid
        exact absurd hpath (hafter' f (by simp))

/-- The files that are left are the last ones of their paths. -/
theorem mem_kept_iff {writes : List MountedFile} {f : MountedFile} :
    f ∈ kept writes ↔ LastOf writes f := by
  constructor
  · exact (leftOf_kept writes).last f
  · intro h
    have hwritten : f.path ∈ writes.map path := by
      obtain ⟨before, after, rfl, -⟩ := h
      simp
    obtain ⟨g, hg, hpath⟩ := List.mem_map.1 (((leftOf_kept writes).paths f.path).2 hwritten)
    have heq : g = f := ((leftOf_kept writes).last g hg).eq h hpath
    rwa [← heq]

/-! ### What is replaced -/

/-- A file whose path is written again later. -/
def Replaced (writes : List MountedFile) (f : MountedFile) : Prop :=
  ∃ before after, writes = before ++ f :: after ∧ ∃ g ∈ after, g.path = f.path

/-- The writes whose paths are written again later. -/
def replaced : List MountedFile → List MountedFile
  | [] => []
  | f :: rest => if f.path ∈ rest.map path then f :: replaced rest else replaced rest

/-- A value stands at the head of a list or behind it, each time with what comes after it. -/
theorem exists_split_cons_iff {x y : α} {rest : List α} {P : List α → Prop} :
    (∃ before after, x :: rest = before ++ y :: after ∧ P after)
      ↔ x = y ∧ P rest ∨ ∃ before after, rest = before ++ y :: after ∧ P after := by
  constructor
  · rintro ⟨before, after, h, hafter⟩
    cases before with
    | nil =>
        obtain ⟨rfl, rfl⟩ := List.cons.inj h
        exact .inl ⟨rfl, hafter⟩
    | cons b before =>
        obtain ⟨rfl, rfl⟩ := List.cons.inj h
        exact .inr ⟨before, after, rfl, hafter⟩
  · rintro (⟨rfl, hafter⟩ | ⟨before, after, rfl, hafter⟩)
    · exact ⟨[], rest, rfl, hafter⟩
    · exact ⟨x :: before, after, rfl, hafter⟩

theorem lastOf_cons_iff {w f : MountedFile} {rest : List MountedFile} :
    LastOf (w :: rest) f ↔ w = f ∧ f.path ∉ rest.map path ∨ LastOf rest f := by
  have hpath : f.path ∉ rest.map path ↔ ∀ g ∈ rest, g.path ≠ f.path := by
    simp
  rw [hpath]
  exact exists_split_cons_iff

theorem replaced_cons_iff {w f : MountedFile} {rest : List MountedFile} :
    Replaced (w :: rest) f ↔ w = f ∧ f.path ∈ rest.map path ∨ Replaced rest f := by
  rw [List.mem_map]
  exact exists_split_cons_iff

theorem mem_replaced_iff {writes : List MountedFile} {f : MountedFile} :
    f ∈ replaced writes ↔ Replaced writes f := by
  induction writes with
  | nil => simp [replaced, Replaced]
  | cons w rest ih =>
      rw [replaced_cons_iff, replaced, ← ih]
      by_cases hw : w.path ∈ rest.map path
      · rw [if_pos hw, List.mem_cons]
        constructor
        · rintro (rfl | hf)
          · exact .inl ⟨rfl, hw⟩
          · exact .inr hf
        · rintro (⟨rfl, -⟩ | hf)
          · exact .inl rfl
          · exact .inr hf
      · rw [if_neg hw]
        constructor
        · exact .inr
        · rintro (⟨rfl, hf⟩ | hf)
          · exact absurd hf hw
          · exact hf

/-- Where no path is written twice, nothing is replaced. -/
theorem not_replaced_of_nodup {writes : List MountedFile} (h : (writes.map path).Nodup)
    (f : MountedFile) : ¬ Replaced writes f := by
  rintro ⟨before, after, rfl, g, hg, hpath⟩
  rw [List.map_append, List.map_cons] at h
  have hafter : f.path ∉ after.map path := (List.nodup_cons.1 (List.nodup_append.1 h).2.1).1
  rw [← hpath] at hafter
  exact hafter (List.mem_map_of_mem hg)

theorem nodup_kept (writes : List MountedFile) : (kept writes).Nodup :=
  List.Nodup.of_map path (leftOf_kept writes).nodup

/-- A write in front of all others is left unless one of them is to its path. -/
theorem kept_cons_perm (w : MountedFile) (rest : List MountedFile) :
    (kept (w :: rest)).Perm (if w.path ∈ rest.map path then kept rest else w :: kept rest) := by
  -- The files are put from the front, so what `w` changes is seen only in who is last of a path.
  by_cases hw : w.path ∈ rest.map path
  · rw [if_pos hw, List.perm_ext_iff_of_nodup (nodup_kept _) (nodup_kept _)]
    intro f
    rw [mem_kept_iff, mem_kept_iff, lastOf_cons_iff]
    constructor
    · rintro (⟨rfl, hf⟩ | hf)
      · exact absurd hw hf
      · exact hf
    · exact .inr
  · have hnew : w ∉ kept rest := by
      intro h
      exact hw (((leftOf_kept rest).paths w.path).1 (List.mem_map_of_mem h))
    have hnodup : (w :: kept rest).Nodup := List.nodup_cons.2 ⟨hnew, nodup_kept rest⟩
    rw [if_neg hw, List.perm_ext_iff_of_nodup (nodup_kept _) hnodup]
    intro f
    rw [mem_kept_iff, lastOf_cons_iff, List.mem_cons, mem_kept_iff]
    constructor
    · rintro (⟨rfl, -⟩ | hf)
      · exact .inl rfl
      · exact .inr hf
    · rintro (rfl | hf)
      · exact .inl ⟨rfl, hw⟩
      · exact .inr hf

/-- Every write is left or replaced. -/
theorem kept_append_replaced_perm (writes : List MountedFile) :
    (kept writes ++ replaced writes).Perm writes := by
  induction writes with
  | nil => exact .refl _
  | cons w rest ih =>
      have hkept := kept_cons_perm w rest
      rw [replaced]
      by_cases hw : w.path ∈ rest.map path
      · rw [if_pos hw] at hkept ⊢
        have hmiddle : (kept rest ++ w :: replaced rest).Perm (w :: (kept rest ++ replaced rest)) :=
          List.perm_middle
        exact ((hkept.append_right _).trans hmiddle).trans (ih.cons w)
      · rw [if_neg hw] at hkept ⊢
        exact (hkept.append_right _).trans (ih.cons w)

/-! ### Sizes -/

theorem totalSize_eq_sum (files : List MountedFile) :
    totalSize files = (files.map byteSize).sum := by
  induction files with
  | nil => rfl
  | cons f rest ih => rw [totalSize, ih, List.map_cons, List.sum_cons]

theorem totalSize_append (files files' : List MountedFile) :
    totalSize (files ++ files') = totalSize files + totalSize files' := by
  simp only [totalSize_eq_sum, List.map_append, List.sum_append]

theorem totalSize_perm {files files' : List MountedFile} (h : files.Perm files') :
    totalSize files = totalSize files' := by
  rw [totalSize_eq_sum, totalSize_eq_sum, (h.map byteSize).sum_nat]

theorem totalSize_eq_zero_iff {files : List MountedFile} :
    totalSize files = 0 ↔ ∀ f ∈ files, f.byteSize = 0 := by
  rw [totalSize_eq_sum, List.sum_eq_zero_iff_forall_eq_nat, List.forall_mem_map]

/-- The bytes of all writes are those of the files that are left and of those that are replaced. -/
theorem totalSize_kept_add_replaced (writes : List MountedFile) :
    totalSize (kept writes) + totalSize (replaced writes) = totalSize writes := by
  rw [← totalSize_perm (kept_append_replaced_perm writes), totalSize_append]

theorem totalSize_kept_le (writes : List MountedFile) :
    totalSize (kept writes) ≤ totalSize writes := by
  rw [← totalSize_kept_add_replaced writes]
  exact Nat.le_add_right _ _

/-- The files that are left have as many bytes as all writes if what is replaced has none. -/
theorem totalSize_kept_eq_iff {writes : List MountedFile} :
    totalSize (kept writes) = totalSize writes ↔ ∀ f, Replaced writes f → f.byteSize = 0 := by
  rw [← totalSize_kept_add_replaced writes, eq_comm, Nat.add_eq_left, totalSize_eq_zero_iff]
  simp only [mem_replaced_iff]

/-! ### Writes in different places -/

theorem put_append {file : MountedFile} {files : List MountedFile}
    (h : ∀ f ∈ files, f.path ≠ file.path) (more : List MountedFile) :
    put file (files ++ more) = files ++ put file more := by
  induction files with
  | nil => rfl
  | cons f rest ih =>
      rw [List.forall_mem_cons] at h
      rw [List.cons_append, put, if_neg h.1, ih h.2, List.cons_append]

theorem foldl_put_append {files writes : List MountedFile}
    (h : ∀ w ∈ writes, ∀ f ∈ files, f.path ≠ w.path) (more : List MountedFile) :
    writes.foldl (fun files file => put file files) (files ++ more)
      = files ++ writes.foldl (fun files file => put file files) more := by
  induction writes generalizing more with
  | nil => rfl
  | cons w rest ih =>
      rw [List.forall_mem_cons] at h
      rw [List.foldl_cons, put_append h.1, ih h.2, List.foldl_cons]

/-- Writes that share no path with those before them leave these as they are. -/
theorem kept_append {writes more : List MountedFile}
    (h : ∀ w ∈ more, ∀ f ∈ writes, f.path ≠ w.path) :
    kept (writes ++ more) = kept writes ++ kept more := by
  have hkept : ∀ w ∈ more, ∀ f ∈ kept writes, f.path ≠ w.path := by
    intro w hw f hf
    obtain ⟨before, after, rfl, -⟩ := mem_kept_iff.1 hf
    exact h w hw f (by simp)
  have hmore := foldl_put_append hkept []
  rw [List.append_nil] at hmore
  rw [kept, List.foldl_append]
  exact hmore

end MountedFile

namespace FileSet

/-- The index of a set finds the place of a path, if it has one. -/
theorem toList_insert (s : FileSet) (file : MountedFile) :
    (s.insert file).files.toList = MountedFile.put file s.files.toList := by
  unfold insert
  split
  · next i h =>
      -- The index has one place for a path, so no file before this one has it.
      obtain ⟨hi, hpath⟩ := (s.placed file.path i).1 h
      have hfirst : ∀ (j : Nat) (hj : j < s.files.toList.length),
          s.files.toList[j].path = file.path → j = i := by
        intro j hj e
        have hj' : s.positions[file.path]? = some j := (s.placed file.path j).2 ⟨hj, e⟩
        rw [h] at hj'
        exact (Option.some.inj hj').symm
      rw [MountedFile.put_of_getElem hi hpath hfirst]
      exact Array.toList_set s.files i file hi
  · next h =>
      have hnew : ∀ f ∈ s.files.toList, f.path ≠ file.path := by
        intro f hf e
        obtain ⟨j, hj, rfl⟩ := List.mem_iff_getElem.1 hf
        have hj' : s.positions[file.path]? = some j := (s.placed file.path j).2 ⟨hj, e⟩
        rw [h] at hj'
        cases hj'
      rw [MountedFile.put_of_not_mem hnew]
      exact Array.toList_push

theorem toList_foldl_insert (writes : List MountedFile) (s : FileSet) :
    (writes.foldl insert s).files.toList
      = writes.foldl (fun files file => MountedFile.put file files) s.files.toList := by
  induction writes generalizing s with
  | nil => rfl
  | cons w rest ih => rw [List.foldl_cons, List.foldl_cons, ih, toList_insert]

/-- The files of a set are what is left of its writes. -/
theorem toList_ofWrites (writes : List MountedFile) :
    (ofWrites writes).files.toList = MountedFile.kept writes :=
  toList_foldl_insert writes empty

end FileSet

end CellRecipe
