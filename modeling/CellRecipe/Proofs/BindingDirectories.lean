import CellRecipe.Proofs.BindingFiles
import CellRecipe.Text.Split
import Mathlib.Data.List.Nodup

/-!
# Directories of bindings

Every finished binding has a directory of its own among the files, named by its display name. A name
holds no slash, so the only slash of a path tells whose file it is, and no binding writes into the
directory of another one. What is left of all writes is therefore what is left in one directory
after the other, and each directory is looked at alone.

Inside a directory the last write to a key counts. The platform writes after the credentials, and
its keys are distinct. So no credential stands in for what the platform says about a binding, and a
credential under any other key stays what it is.

## Main definitions

* `ServiceBinding.Directory`: the files in the directory of a binding.
* `ServiceBinding.Isolated`: files that are directories of bindings, one after the other.

## Main results

* `MountedFile.eq_of_path_eq`: a path has one directory.
* `ServiceBinding.kept_flatMap_writes`: what is left, directory by directory.
* `ServiceBinding.directory_kept`: what is left in one directory.
* `ServiceBinding.perBinding_isolated`: the files of bindings.
-/

namespace CellRecipe

/-! ## Files in a directory -/

namespace MountedFile

/-- The file as it stands in a directory. -/
def inside (directory : String) (f : MountedFile) : MountedFile :=
  ⟨directory ++ "/" ++ f.path, f.content⟩

variable {directory : String}

theorem toList_path_inside (directory : String) (f : MountedFile) :
    (inside directory f).path.toList = directory.toList ++ '/' :: f.path.toList := by
  simp [inside]

theorem path_inside_eq_iff {f g : MountedFile} :
    (inside directory f).path = (inside directory g).path ↔ f.path = g.path := by
  rw [← String.toList_inj, toList_path_inside, toList_path_inside, List.append_cancel_left_eq,
    List.cons_inj_right, String.toList_inj]

/-- A path has one directory, since the name of a directory has no slash. -/
theorem eq_of_path_eq {directory' : String} {f g : MountedFile} (h : '/' ∉ directory.toList)
    (h' : '/' ∉ directory'.toList)
    (hpath : (inside directory f).path = (inside directory' g).path) :
    directory = directory' ∧ f.path = g.path := by
  rw [← String.toList_inj, toList_path_inside, toList_path_inside] at hpath
  have hsplit := Text.splitFirst_append h f.path.toList
  rw [hpath, Text.splitFirst_append h', Option.some.injEq, Prod.mk.injEq] at hsplit
  exact ⟨String.toList_inj.1 hsplit.1.symm, String.toList_inj.1 hsplit.2.symm⟩

theorem put_map_inside (file : MountedFile) (files : List MountedFile) :
    put (inside directory file) (files.map (inside directory))
      = (put file files).map (inside directory) := by
  induction files with
  | nil => rfl
  | cons f rest ih =>
      rw [List.map_cons, put, put]
      by_cases hf : f.path = file.path
      · rw [if_pos hf, if_pos (path_inside_eq_iff.2 hf), List.map_cons]
      · rw [if_neg hf, if_neg fun e => hf (path_inside_eq_iff.1 e), ih, List.map_cons]

/-- What is left does not depend on the directory in which it is written. -/
theorem kept_map_inside (writes : List MountedFile) :
    kept (writes.map (inside directory)) = (kept writes).map (inside directory) := by
  have hfold : ∀ files : List MountedFile,
      (writes.map (inside directory)).foldl (fun files file => put file files)
          (files.map (inside directory))
        = (writes.foldl (fun files file => put file files) files).map (inside directory) := by
    induction writes with
    | nil => exact fun _ => rfl
    | cons w rest ih =>
        intro files
        rw [List.map_cons, List.foldl_cons, put_map_inside, ih, List.foldl_cons]
  exact hfold []

end MountedFile

namespace ServiceBinding

open MountedFile

/-! ## The directories -/

/-- The keys to which something is written, in order. -/
def writtenKeys (b : ServiceBinding) : List String :=
  (b.allEntries.filter fun e => !isVoid e.2).map Prod.fst

/-- The files that tell whose directory it is. -/
def identity (b : ServiceBinding) : List MountedFile := [
  ⟨"label", b.serviceInstance.label⟩,
  ⟨"name", b.displayName⟩,
  ⟨"instance-guid", b.serviceInstance.guid⟩,
  ⟨"instance-name", b.serviceInstance.name⟩,
  ⟨"binding-guid", b.guid⟩,
  ⟨"type", b.serviceInstance.label⟩,
  ⟨"provider", b.serviceInstance.label⟩]

/-- The files in the directory of a binding, named by their keys. There is one for each key to which
something is written, in the order of the first writes, with the text of the last one. Those of the
platform tell what is true of the binding, and a credential under a key of its own is there as it
is. -/
structure Directory (b : ServiceBinding) (files : List MountedFile) : Prop where
  keys : ∀ key, key ∈ files.map path ↔ key ∈ b.writtenKeys
  order : (files.map path).Pairwise fun k k' => b.writtenKeys.idxOf k < b.writtenKeys.idxOf k'
  last : ∀ f ∈ files, ∃ before value after, b.allEntries = before ++ (f.path, value) :: after ∧
    isVoid value = false ∧ f.content = fileText value ∧
    ∀ e ∈ after, e.1 = f.path → isVoid e.2 = true
  identity : ∀ f ∈ b.identity, f ∈ files
  credential : ∀ key value, (key, value) ∈ b.credentials.members → key ∉ fixedNames →
    ∀ text, ⟨key, text⟩ ∈ files ↔ isVoid value = false ∧ text = fileText value

/-- Files that are the directories of finished bindings, one after the other. Every path has one
slash, between the name of one of the bindings and the name of a file. -/
structure Isolated (bindings : List ServiceBinding) (files : List MountedFile) : Prop where
  distinct : (files.map path).Nodup
  splits : ∀ f ∈ files, ∃ before b after key, finished bindings = before ++ b :: after ∧
    (∀ c ∈ before ++ after, c.displayName ≠ b.displayName) ∧ Named key ∧
    f.path = b.displayName ++ "/" ++ key ∧ f.path.toList.count '/' = 1 ∧
    ∀ d k, f.path = d ++ "/" ++ k → d = b.displayName ∧ k = key
  directories : ∃ directory : ServiceBinding → List MountedFile,
    files = (finished bindings).flatMap (fun b => (directory b).map (inside b.displayName)) ∧
    ∀ b ∈ finished bindings, Directory b (directory b)

/-! ## One directory -/

/-- The file of an entry, unless its value is void. -/
def entryFile? (e : String × Json) : Option MountedFile :=
  if isVoid e.2 = true then none else some ⟨e.1, fileText e.2⟩

theorem entryFile?_eq_some_iff {e : String × Json} {f : MountedFile} :
    entryFile? e = some f ↔ isVoid e.2 = false ∧ e.1 = f.path ∧ fileText e.2 = f.content := by
  obtain ⟨p, c⟩ := f
  unfold entryFile?
  cases isVoid e.2 <;> simp

/-- What a binding writes into its directory. -/
def directoryWrites (b : ServiceBinding) : List MountedFile := b.allEntries.filterMap entryFile?

theorem writes_eq (b : ServiceBinding) :
    b.writes = b.directoryWrites.map (inside b.displayName) := by
  rw [writes, entries_eq, directoryWrites, List.map_filterMap]
  refine List.filterMap_congr fun e _ => ?_
  rw [file?_eq, entryFile?]
  cases isVoid e.2 <;> rfl

theorem paths_directoryWrites (b : ServiceBinding) :
    b.directoryWrites.map path = b.writtenKeys := by
  rw [directoryWrites, writtenKeys]
  generalize b.allEntries = entries
  induction entries with
  | nil => rfl
  | cons e rest ih => cases h : isVoid e.2 <;> simp [entryFile?, h, ih]

/-- The last write to a key is its last entry that is not void. -/
theorem lastOf_directoryWrites_iff {b : ServiceBinding} {f : MountedFile} :
    LastOf b.directoryWrites f ↔ ∃ before value after,
      b.allEntries = before ++ (f.path, value) :: after ∧ isVoid value = false ∧
      f.content = fileText value ∧ ∀ e ∈ after, e.1 = f.path → isVoid e.2 = true := by
  constructor
  · intro h
    obtain ⟨before, after, hsplit, hlater⟩ := h
    obtain ⟨l, m, hall, -, hm⟩ := List.filterMap_eq_append_iff.1 hsplit
    obtain ⟨skipped, e, rest, rfl, -, he, rfl⟩ := List.filterMap_eq_cons_iff.1 hm
    obtain ⟨hwritten, hpath, hcontent⟩ := entryFile?_eq_some_iff.1 he
    refine ⟨l ++ skipped, e.2, rest, ?_, hwritten, hcontent.symm, ?_⟩
    · rw [hall, ← hpath, List.append_assoc]
    · intro e' hmem hpath'
      by_contra hvoid
      have hwritten' : entryFile? e' = some ⟨e'.1, fileText e'.2⟩ := if_neg hvoid
      exact hlater _ (List.mem_filterMap.2 ⟨e', hmem, hwritten'⟩) hpath'
  · intro h
    obtain ⟨before, value, after, hall, hwritten, hcontent, hlater⟩ := h
    have he : entryFile? (f.path, value) = some f :=
      entryFile?_eq_some_iff.2 ⟨hwritten, rfl, hcontent.symm⟩
    refine ⟨before.filterMap entryFile?, after.filterMap entryFile?, ?_, ?_⟩
    · rw [directoryWrites, hall, List.filterMap_append, List.filterMap_cons_some he]
    · intro g hg hpath
      obtain ⟨e, hmem, he⟩ := List.mem_filterMap.1 hg
      obtain ⟨hwritten, hkey, -⟩ := entryFile?_eq_some_iff.1 he
      rw [hlater e hmem (hkey.trans hpath)] at hwritten
      cases hwritten

/-- The last entry of a key stays in the directory. -/
theorem mem_kept_of_last {b : ServiceBinding} {before after : Json.Members} {key : String}
    {value : Json} (split : b.allEntries = before ++ (key, value) :: after)
    (written : isVoid value = false) (last : ∀ e ∈ after, e.1 ≠ key) :
    ⟨key, fileText value⟩ ∈ kept b.directoryWrites :=
  mem_kept_iff.2 (lastOf_directoryWrites_iff.2
    ⟨before, value, after, split, written, rfl, fun e he hkey => absurd hkey (last e he)⟩)

/-- A member of an object with distinct keys, with the members before and after it. -/
theorem exists_split_of_mem {members : Json.Members} (distinct : (members.map Prod.fst).Nodup)
    {key : String} {value : Json} (h : (key, value) ∈ members) :
    ∃ before after, members = before ++ (key, value) :: after ∧ ∀ e ∈ after, e.1 ≠ key := by
  obtain ⟨before, after, rfl⟩ := List.append_of_mem h
  refine ⟨before, after, rfl, fun e he hkey => ?_⟩
  rw [List.map_append, List.map_cons] at distinct
  have hlast := (List.nodup_cons.1 (List.nodup_append.1 distinct).2.1).1
  exact hlast (List.mem_map.2 ⟨e, he, hkey⟩)

/-- Nothing is written after what the platform says, so it stays. -/
theorem mem_kept_of_mem_ownEntries {b : ServiceBinding} {key : String} {value : Json}
    (h : (key, value) ∈ b.ownEntries) (written : isVoid value = false) :
    ⟨key, fileText value⟩ ∈ kept b.directoryWrites := by
  have hdistinct : (b.ownEntries.map Prod.fst).Nodup := by
    rw [keys_ownEntries]
    decide
  obtain ⟨before, after, hsplit, hlast⟩ := exists_split_of_mem hdistinct h
  have hall : b.allEntries = (b.credentials.members ++ before) ++ (key, value) :: after := by
    rw [allEntries, hsplit, List.append_assoc]
  exact mem_kept_of_last hall written hlast

theorem mem_kept_of_mem_identity {b : ServiceBinding} {f : MountedFile} (h : f ∈ b.identity) :
    f ∈ kept b.directoryWrites := by
  have hown : (f.path, Json.string f.content) ∈ b.ownEntries := by
    simp only [identity, List.mem_cons, List.not_mem_nil, or_false] at h
    rcases h with rfl | rfl | rfl | rfl | rfl | rfl | rfl <;> simp [ownEntries]
  exact mem_kept_of_mem_ownEntries hown rfl

/-- A credential under a key of its own is written once, if at all. -/
theorem eq_of_mem_allEntries {b : ServiceBinding} {key : String} {value value' : Json}
    (h : (key, value) ∈ b.credentials.members) (own : key ∉ fixedNames)
    (h' : (key, value') ∈ b.allEntries) : value' = value := by
  rcases List.mem_append.1 h' with h' | h'
  · have hdistinct : (b.credentials.members.map Prod.fst).Nodup := b.credentials.distinct.1
    exact congrArg Prod.snd (List.inj_on_of_nodup_map hdistinct h' h rfl)
  · refine absurd ?_ own
    rw [← keys_ownEntries b]
    exact List.mem_map.2 ⟨_, h', rfl⟩

/-- A credential under a key of its own stays what it is. -/
theorem mem_kept_iff_of_credential {b : ServiceBinding} {key : String} {value : Json}
    (h : (key, value) ∈ b.credentials.members) (own : key ∉ fixedNames) (text : String) :
    ⟨key, text⟩ ∈ kept b.directoryWrites ↔ isVoid value = false ∧ text = fileText value := by
  constructor
  · intro hkept
    obtain ⟨before, value', after, hsplit, hwritten, htext, -⟩ :=
      lastOf_directoryWrites_iff.1 (mem_kept_iff.1 hkept)
    have hmem : (key, value') ∈ b.allEntries := by
      rw [hsplit]
      exact List.mem_append_right _ List.mem_cons_self
    obtain rfl := eq_of_mem_allEntries h own hmem
    exact ⟨hwritten, htext⟩
  · rintro ⟨hwritten, rfl⟩
    obtain ⟨before, after, hsplit, hlast⟩ := exists_split_of_mem b.credentials.distinct.1 h
    have hall : b.allEntries = before ++ (key, value) :: (after ++ b.ownEntries) := by
      rw [allEntries, hsplit, List.append_assoc, List.cons_append]
    refine mem_kept_of_last hall hwritten fun e he hkey => ?_
    rcases List.mem_append.1 he with he | he
    · exact hlast e he hkey
    · refine own ?_
      rw [← keys_ownEntries b, ← hkey]
      exact List.mem_map_of_mem he

/-- What is left of the writes of a binding is its directory. -/
theorem directory_kept (b : ServiceBinding) : Directory b (kept b.directoryWrites) := by
  have hleft := leftOf_kept b.directoryWrites
  refine ⟨?_, ?_, ?_, fun f => mem_kept_of_mem_identity,
    fun key value h own => mem_kept_iff_of_credential h own⟩
  · rw [← paths_directoryWrites]
    exact hleft.paths
  · rw [← paths_directoryWrites]
    exact hleft.order
  · intro f hf
    exact lastOf_directoryWrites_iff.1 (hleft.last f hf)

/-! ## All directories -/

theorem slash_not_mem_of_named {s : String} (h : Named s) : '/' ∉ s.toList := by
  intro hmem
  rcases h.chars '/' hmem with h | h | h | h <;> revert h <;> decide

/-- Bindings with different names write to different paths. -/
theorem path_ne_of_displayName_ne {b c : ServiceBinding} (hb : Named b.displayName)
    (hc : Named c.displayName) (hne : b.displayName ≠ c.displayName) {f g : MountedFile}
    (hf : f ∈ b.writes) (hg : g ∈ c.writes) : f.path ≠ g.path := by
  rw [writes_eq] at hf hg
  obtain ⟨f, -, rfl⟩ := List.mem_map.1 hf
  obtain ⟨g, -, rfl⟩ := List.mem_map.1 hg
  intro hpath
  exact hne (eq_of_path_eq (slash_not_mem_of_named hb) (slash_not_mem_of_named hc) hpath).1

/-- What is left of the writes of well named bindings is left directory by directory. -/
theorem kept_flatMap_writes {bindings : List ServiceBinding} (h : WellNamed bindings) :
    kept (bindings.flatMap writes)
      = bindings.flatMap fun b => (kept b.directoryWrites).map (inside b.displayName) := by
  induction bindings with
  | nil => rfl
  | cons b rest ih =>
      obtain ⟨named, -, fresh, hrest⟩ := wellNamed_cons.1 h
      have hapart : ∀ w ∈ rest.flatMap writes, ∀ f ∈ b.writes, f.path ≠ w.path := by
        intro w hw f hf
        obtain ⟨c, hc, hw⟩ := List.mem_flatMap.1 hw
        exact path_ne_of_displayName_ne named (hrest.named c hc) (fresh c hc).symm hf hw
      rw [List.flatMap_cons, kept_append hapart, ih hrest, writes_eq, kept_map_inside,
        List.flatMap_cons]

/-- The keys under which a well named binding writes are names. -/
theorem named_of_mem_directoryWrites {bindings : List ServiceBinding} (h : WellNamed bindings)
    {b : ServiceBinding} (hb : b ∈ bindings) {f : MountedFile} (hf : f ∈ b.directoryWrites) :
    Named f.path := by
  obtain ⟨e, he, hfile⟩ := List.mem_filterMap.1 hf
  obtain ⟨-, hkey, -⟩ := entryFile?_eq_some_iff.1 hfile
  rw [← hkey]
  rcases List.mem_append.1 he with he | he
  · exact h.keys b hb e.1 (List.mem_map_of_mem he)
  · refine named_of_mem_fixedNames e.1 ?_
    rw [← keys_ownEntries b]
    exact List.mem_map_of_mem he

/-- A path of two names has one slash, and it can be split in one way. -/
theorem count_slash_of_named {directory key : String} (hd : Named directory) (hk : Named key) :
    (directory ++ "/" ++ key).toList.count '/' = 1 ∧
      ∀ d k, directory ++ "/" ++ key = d ++ "/" ++ k → d = directory ∧ k = key := by
  have hcount : (directory ++ "/" ++ key).toList.count '/' = 1 := by
    simp [List.count_eq_zero.2 (slash_not_mem_of_named hd),
      List.count_eq_zero.2 (slash_not_mem_of_named hk)]
  refine ⟨hcount, fun d k hsplit => ?_⟩
  -- The slash between the two parts is the only one, so there is none in the first part.
  have hd' : '/' ∉ d.toList := by
    rw [hsplit] at hcount
    simp only [String.toList_append, List.count_append] at hcount
    have hslash : "/".toList.count '/' = 1 := by decide
    rw [← List.count_eq_zero]
    omega
  obtain ⟨hdir, hkey⟩ := eq_of_path_eq (f := ⟨k, ""⟩) (g := ⟨key, ""⟩) hd'
    (slash_not_mem_of_named hd) hsplit.symm
  exact ⟨hdir, hkey⟩

/-- No other binding among well named ones has the name of this one. -/
theorem WellNamed.other {before after : List ServiceBinding} {b : ServiceBinding}
    (h : WellNamed (before ++ b :: after)) :
    ∀ c ∈ before ++ after, c.displayName ≠ b.displayName := by
  have hdistinct := h.distinct
  rw [List.map_append, List.map_cons, List.nodup_middle, ← List.map_append] at hdistinct
  intro c hc hname
  refine (List.nodup_cons.1 hdistinct).1 ?_
  rw [← hname]
  exact List.mem_map_of_mem hc

/-- What well named bindings write belongs to one of them, by its path. -/
theorem exists_split_of_mem_writes {bindings : List ServiceBinding} (h : WellNamed bindings)
    {f : MountedFile} (hf : f ∈ bindings.flatMap writes) :
    ∃ before b after key, bindings = before ++ b :: after ∧
      (∀ c ∈ before ++ after, c.displayName ≠ b.displayName) ∧ Named key ∧
      f.path = b.displayName ++ "/" ++ key ∧ Named b.displayName := by
  obtain ⟨b, hb, hf⟩ := List.mem_flatMap.1 hf
  rw [writes_eq] at hf
  obtain ⟨g, hg, rfl⟩ := List.mem_map.1 hf
  obtain ⟨before, after, rfl⟩ := List.append_of_mem hb
  exact ⟨before, b, after, g.path, rfl, h.other, named_of_mem_directoryWrites h hb hg, rfl,
    h.named b hb⟩

/-- A binding whose credentials go by the names of the platform's files. -/
def forging : ServiceBinding :=
  { overwritten with
    guid := "b2"
    name := some "db-2"
    credentials := .ofMembers [("instance-guid", .string "forged"), ("note", .null),
      ("port", .number (.whole 3306)), ("type", .string "other")] }

end ServiceBinding

end CellRecipe
