import CellRecipe.Proofs.BindingDirectories
import CellRecipe.Proofs.ServiceGroups

/-!
# Bindings in another order

The order of bindings decides which fault is met first, where a file stands and which label comes
first. It does not decide whether the bindings are served, nor what they are served: whether
bindings are well named and how many bytes they write are said without their order, and what is left
of the writes is left in one directory after the other.

The file of all bindings has the same bytes in every order, since a label and its values are written
with the same characters wherever they stand. So it fits in every order or in none, and the fault is
the same one.

## Main definitions

* `MountedFile.directory`: the directory in which a file stands.
* `ServiceBinding.SameFiles`: files that differ in the order of their directories.
* `ServiceBinding.SameGroups`: groups that differ in the order of their labels and values.

## Main results

* `ServiceBinding.served_in_every_order`: what bindings come to does not depend on their order.
-/

namespace CellRecipe

/-! ## Directories of files -/

namespace MountedFile

/-- What stands before the first slash of the path. -/
def directory (f : MountedFile) : String :=
  String.ofList (f.path.toList.takeWhile fun c => c != '/')

theorem directory_inside {name : String} (h : '/' ∉ name.toList) (f : MountedFile) :
    (inside name f).directory = name := by
  have hname : ∀ c ∈ name.toList, (c != '/') = true := by
    intro c hc
    rw [bne_iff_ne]
    intro e
    exact h (by rwa [← e])
  rw [directory, toList_path_inside, List.takeWhile_append_of_pos hname]
  simp

end MountedFile

namespace ServiceBinding

open MountedFile

variable {bindings bindings' : List ServiceBinding}

/-! ## Files -/

/-- The same files in another order, which keeps the order of the files of any one binding. -/
structure SameFiles (bindings : List ServiceBinding) (files files' : List MountedFile) : Prop where
  perm : files.Perm files'
  owned : ∀ f ∈ files, ∃ b ∈ finished bindings, f.directory = b.displayName
  within : ∀ b ∈ finished bindings,
    files.filter (fun f => f.directory == b.displayName)
      = files'.filter fun f => f.directory == b.displayName

theorem finished_perm (h : bindings.Perm bindings') :
    (finished bindings).Perm (finished bindings') :=
  h.filter createSucceeded

theorem WellNamed.perm (h : bindings.Perm bindings') (hnames : WellNamed bindings) :
    WellNamed bindings' := by
  refine ⟨?_, (h.map displayName).nodup_iff.1 hnames.distinct, ?_⟩
  · exact fun b hb => hnames.named b (h.mem_iff.2 hb)
  · exact fun b hb => hnames.keys b (h.mem_iff.2 hb)

theorem writtenBytes_perm (h : bindings.Perm bindings') :
    writtenBytes bindings = writtenBytes bindings' :=
  ((finished_perm h).map bytesOf).sum_nat

/-- Bindings that are served in one order are served in every order. -/
theorem exists_perBinding_eq_ok_of_perm (h : bindings.Perm bindings')
    (hserved : ∃ files, perBinding bindings = .ok files) :
    ∃ files, perBinding bindings' = .ok files := by
  obtain ⟨files, hfiles⟩ := hserved
  obtain ⟨wellNamed, hsize, -⟩ := perBinding_eq_ok.1 hfiles
  rw [writtenBytes_perm h] at hsize
  exact ⟨_, perBinding_eq_ok.2 ⟨wellNamed.perm (finished_perm h), hsize, rfl⟩⟩

/-- What is left of the writes of a binding, in its directory. -/
def filesOf (b : ServiceBinding) : List MountedFile :=
  (kept b.directoryWrites).map (inside b.displayName)

theorem directory_of_mem_filesOf {b : ServiceBinding} (h : Named b.displayName) {f : MountedFile}
    (hf : f ∈ b.filesOf) : f.directory = b.displayName := by
  obtain ⟨g, -, rfl⟩ := List.mem_map.1 hf
  exact directory_inside (slash_not_mem_of_named h) g

/-- The files in the directory of a binding are its own, wherever it stands among the others. -/
theorem filter_directory_eq (h : WellNamed bindings) {b : ServiceBinding} (hb : b ∈ bindings) :
    (bindings.flatMap filesOf).filter (fun f => f.directory == b.displayName) = b.filesOf := by
  -- The binding stands between others, none of which has its name.
  obtain ⟨before, after, rfl⟩ := List.append_of_mem hb
  have hown : b.filesOf.filter (fun f => f.directory == b.displayName) = b.filesOf := by
    rw [List.filter_eq_self]
    intro f hf
    exact beq_iff_eq.2 (directory_of_mem_filesOf (h.named b hb) hf)
  have hother : ∀ c ∈ before ++ after,
      c.filesOf.filter (fun f => f.directory == b.displayName) = [] := by
    intro c hc
    have hmem : c ∈ before ++ b :: after := by
      rcases List.mem_append.1 hc with hc | hc
      · exact List.mem_append_left _ hc
      · exact List.mem_append_right _ (List.mem_cons_of_mem b hc)
    rw [List.filter_eq_nil_iff]
    intro f hf e
    rw [beq_iff_eq, directory_of_mem_filesOf (h.named c hmem) hf] at e
    exact h.other c hc e
  have hbefore : before.flatMap
      (fun c => c.filesOf.filter fun f => f.directory == b.displayName) = [] :=
    List.flatMap_eq_nil_iff.2 fun c hc => hother c (List.mem_append_left after hc)
  have hafter : after.flatMap
      (fun c => c.filesOf.filter fun f => f.directory == b.displayName) = [] :=
    List.flatMap_eq_nil_iff.2 fun c hc => hother c (List.mem_append_right before hc)
  rw [List.filter_flatMap, List.flatMap_append, List.flatMap_cons, hbefore, hafter, hown,
    List.nil_append, List.append_nil]

/-- Served bindings have the same files in every order. -/
theorem sameFiles_of_perm (h : bindings.Perm bindings') {files files' : List MountedFile}
    (hfiles : perBinding bindings = .ok files) (hfiles' : perBinding bindings' = .ok files') :
    SameFiles bindings files files' := by
  have hperm := finished_perm h
  obtain ⟨wellNamed, -, hkept⟩ := perBinding_eq_ok.1 hfiles
  obtain ⟨wellNamed', -, hkept'⟩ := perBinding_eq_ok.1 hfiles'
  have hleft : (finished bindings).flatMap filesOf = files := by
    rw [← hkept, kept_flatMap_writes wellNamed]
    rfl
  have hleft' : (finished bindings').flatMap filesOf = files' := by
    rw [← hkept', kept_flatMap_writes wellNamed']
    rfl
  rw [← hleft, ← hleft']
  refine ⟨hperm.flatMap_right filesOf, ?_, ?_⟩
  · intro f hf
    obtain ⟨b, hb, hf⟩ := List.mem_flatMap.1 hf
    exact ⟨b, hb, directory_of_mem_filesOf (wellNamed.named b hb) hf⟩
  · intro b hb
    rw [filter_directory_eq wellNamed hb, filter_directory_eq wellNamed' (hperm.mem_iff.1 hb)]

/-! ## The object of all bindings -/

/-- Objects with lists under the same keys, and under each key the same items. -/
structure SameGroups (ms ms' : Json.Members) : Prop where
  distinct : (Json.keys ms).Nodup
  distinct' : (Json.keys ms').Nodup
  lists : ∀ label, Option.Rel
    (fun v v' => ∃ items items' : List Json,
      v = .array items ∧ v' = .array items' ∧ items.Perm items')
    (Json.member? ms label) (Json.member? ms' label)

variable {items items' : Json.Members} {labels labels' : List String}

theorem under_perm (h : items.Perm items') (label : String) :
    (under label items).Perm (under label items') :=
  (h.filter _).map Prod.snd

theorem sameGroups_groupMembers (hitems : items.Perm items') (hlabels : labels.Perm labels')
    (distinct : labels.Nodup) :
    SameGroups (groupMembers items labels) (groupMembers items' labels') := by
  have distinct' : labels'.Nodup := hlabels.nodup_iff.1 distinct
  refine ⟨?_, ?_, fun label => ?_⟩
  · rwa [keys_groupMembers]
  · rwa [keys_groupMembers]
  · rw [member?_groupMembers, member?_groupMembers]
    by_cases hlabel : label ∈ labels
    · rw [if_pos hlabel, if_pos (hlabels.mem_iff.1 hlabel)]
      exact .some ⟨_, _, rfl, rfl, under_perm hitems label⟩
    · rw [if_neg hlabel, if_neg fun h => hlabel (hlabels.mem_iff.2 h)]
      exact .none

/-- The bytes of an object of groups do not depend on the order of labels and values. -/
theorem byteSize_groupMembers_perm (hitems : items.Perm items') (hlabels : labels.Perm labels') :
    (Json.object (groupMembers items labels)).compact.utf8ByteSize
      = (Json.object (groupMembers items' labels')).compact.utf8ByteSize := by
  have hgroup : ∀ label, Json.memberBytes (label, .array (under label items))
      = Json.memberBytes (label, .array (under label items')) := by
    intro label
    rw [Json.memberBytes, Json.memberBytes,
      Json.byteSize_compact_array_perm (under_perm hitems label)]
  -- The members are as long as before, only in another order.
  have hbytes : ((groupMembers items labels).map Json.memberBytes).Perm
      ((groupMembers items' labels').map Json.memberBytes) := by
    rw [groupMembers, groupMembers, List.map_map, List.map_map]
    simp only [Function.comp_def, hgroup]
    exact hlabels.map _
  have hlength := hbytes.length_eq
  rw [List.length_map, List.length_map] at hlength
  rw [Json.byteSize_compact_object, Json.byteSize_compact_object, hbytes.sum_nat, hlength]

/-- The objects of all bindings, in one order and in another. -/
theorem services_perm (h : bindings.Perm bindings') :
    (services bindings).compact.utf8ByteSize = (services bindings').compact.utf8ByteSize ∧
    ∃ ms ms', services bindings = .object ms ∧ services bindings' = .object ms' ∧
      SameGroups ms ms' := by
  have hitems : ((finished bindings).map labelled).Perm ((finished bindings').map labelled) :=
    (finished_perm h).map labelled
  have hgroups := groupedBy_byLabel bindings
  have hgroups' := groupedBy_byLabel bindings'
  have hlabels := hgroups.labels.perm hgroups'.labels (hitems.map Prod.fst)
  rw [services_eq, services_eq]
  exact ⟨byteSize_groupMembers_perm hitems hlabels, _, _, rfl, rfl,
    sameGroups_groupMembers hitems hlabels hgroups.labels.nodup⟩

/-- The file of all bindings fits in every order, or it has the same bytes too many. -/
theorem blob_perm (h : bindings.Perm bindings') :
    (blob bindings = .ok ⟨blobPath, (services bindings).compact⟩ ∧
      blob bindings' = .ok ⟨blobPath, (services bindings').compact⟩) ∨
    ∃ total, blob bindings = .error (.tooLarge total) ∧
      blob bindings' = .error (.tooLarge total) := by
  have hbytes : byteSize ⟨blobPath, (services bindings).compact⟩
      = byteSize ⟨blobPath, (services bindings').compact⟩ := by
    rw [byteSize, byteSize, (services_perm h).1]
  by_cases hfits : byteSize ⟨blobPath, (services bindings).compact⟩ ≤ maxBytes
  · have hfits' := hfits
    rw [hbytes] at hfits'
    exact .inl ⟨if_pos hfits, if_pos hfits'⟩
  · have hfits' := hfits
    rw [hbytes] at hfits'
    refine .inr ⟨byteSize ⟨blobPath, (services bindings).compact⟩, if_neg hfits, ?_⟩
    rw [hbytes]
    exact if_neg hfits'

/-! ## Every order -/

/-- **Bindings in another order.** Bindings become files in every order or in none, and they are the
same files, with those of any one binding in the same order. Together they are one file in every
order, or they have the same bytes too many in every order, and under each label the same values
are listed. -/
theorem served_in_every_order (h : bindings.Perm bindings') :
    ((∃ files, perBinding bindings = .ok files) ↔ ∃ files, perBinding bindings' = .ok files) ∧
    (∀ files files', perBinding bindings = .ok files → perBinding bindings' = .ok files' →
      SameFiles bindings files files') ∧
    ((blob bindings = .ok ⟨"vcap_services", (services bindings).compact⟩ ∧
        blob bindings' = .ok ⟨"vcap_services", (services bindings').compact⟩) ∨
      ∃ total, blob bindings = .error (.tooLarge total) ∧
        blob bindings' = .error (.tooLarge total)) ∧
    ∃ ms ms', services bindings = .object ms ∧ services bindings' = .object ms' ∧
      SameGroups ms ms' := by
  have hserved : (∃ files, perBinding bindings = .ok files)
      ↔ ∃ files, perBinding bindings' = .ok files :=
    ⟨exists_perBinding_eq_ok_of_perm h, exists_perBinding_eq_ok_of_perm h.symm⟩
  exact ⟨hserved, fun _ _ => sameFiles_of_perm h, blob_perm h, (services_perm h).2⟩

/-- Two bindings of one service, one of them with credentials that the platform replaces. -/
theorem served_in_every_order_forging :
    [overwritten, unfinished, forging].Perm [forging, unfinished, overwritten] ∧
    ∃ files files', perBinding [overwritten, unfinished, forging] = .ok files ∧
      perBinding [forging, unfinished, overwritten] = .ok files' ∧
      SameFiles [overwritten, unfinished, forging] files files' := by
  have hperm : [overwritten, unfinished, forging].Perm [forging, unfinished, overwritten] :=
    List.reverse_perm [forging, unfinished, overwritten]
  have wellNamed : WellNamed [overwritten, forging] := ⟨by decide, by decide, by decide⟩
  have hsize : writtenBytes [overwritten, unfinished, forging] ≤ 1000000 := by decide
  have hserved : ∃ files, perBinding [overwritten, unfinished, forging] = .ok files :=
    ⟨_, perBinding_eq_ok.2 ⟨wellNamed, hsize, rfl⟩⟩
  obtain ⟨hiff, hsame, -, -⟩ := served_in_every_order hperm
  obtain ⟨files, hfiles⟩ := hserved
  obtain ⟨files', hfiles'⟩ := hiff.1 ⟨files, hfiles⟩
  exact ⟨hperm, files, files', hfiles, hfiles', hsame files files' hfiles hfiles'⟩

end ServiceBinding

end CellRecipe
