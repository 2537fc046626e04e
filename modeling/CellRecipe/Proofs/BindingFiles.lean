import CellRecipe.Proofs.FileSet
import CellRecipe.ServiceBinding.Files

/-!
# When bindings become files

Finished bindings become files exactly when they are well named and what they write is not too much.
Well named means that the name of every binding and every key of its credentials is a name, and that
no two bindings share one. The keys count whether or not their values are written. The bytes of all
writes count, also of those that a later write replaces, so the files that are left never have more.

The first fault in a name goes before a fault in the size, since sizes are looked at last. The names
of presented attributes are made by the platform and are never at fault.

## Main definitions

* `ServiceBinding.Named`: the texts that are names.
* `ServiceBinding.WellNamed`: the bindings have no fault in their names.
* `ServiceBinding.NameFault`, `ServiceBinding.FirstNameFault`: the first fault in the names.
* `ServiceBinding.allEntries`: what a binding writes, key by key.
* `ServiceBinding.writtenBytes`: the bytes that bindings write.

## Main results

* `ServiceBinding.perBinding_served_or_refused`: the answers to a list of bindings.
-/

namespace CellRecipe.ServiceBinding

/-! ## Names -/

/-- A name has one to 253 lower case letters, digits, hyphens and dots. -/
structure Named (s : String) : Prop where
  nonempty : 1 ≤ s.toList.length
  short : s.toList.length ≤ 253
  chars : ∀ c ∈ s.toList, ('a' ≤ c ∧ c ≤ 'z') ∨ ('0' ≤ c ∧ c ≤ '9') ∨ c = '-' ∨ c = '.'

theorem isNameChar_iff {c : Char} :
    isNameChar c = true ↔ ('a' ≤ c ∧ c ≤ 'z') ∨ ('0' ≤ c ∧ c ≤ '9') ∨ c = '-' ∨ c = '.' := by
  simp [isNameChar, Text.isLower, Text.isDigit, or_assoc]

theorem isName_iff {s : String} : isName s = true ↔ Named s := by
  simp only [isName, Bool.and_eq_true, decide_eq_true_eq, List.all_eq_true, isNameChar_iff]
  constructor
  · intro h
    obtain ⟨⟨nonempty, short⟩, chars⟩ := h
    exact ⟨nonempty, short, chars⟩
  · intro h
    obtain ⟨nonempty, short, chars⟩ := h
    exact ⟨⟨nonempty, short⟩, chars⟩

instance (s : String) : Decidable (Named s) := decidable_of_iff _ isName_iff

/-- The names of the files that every binding may have, whatever its credentials. -/
def fixedNames : List String := [
  "label", "plan", "name", "tags", "instance-guid", "instance-name", "binding-guid",
  "binding-name", "syslog-drain-url", "volume-mounts", "type", "provider"]

theorem named_of_mem_fixedNames : ∀ s ∈ fixedNames, Named s := by
  decide

/-- The name of an attribute's file, character by character. -/
theorem fileName_eq (key : String) :
    fileName key = String.ofList (key.toList.map fun c =>
      if hyphenated.contains key && c == '_' then '-' else c) := by
  apply String.toList_injective
  rw [String.toList_ofList, fileName]
  cases h : hyphenated.contains key with
  | true => simp [String.toList_map]
  | false => simp

/-- The files of the platform are the same for every binding. -/
theorem keys_attributeEntries (b : ServiceBinding) :
    b.attributeEntries.map Prod.fst ++ ["type", "provider"] = fixedNames := by
  have hpresented : (b.presented.filter fun m => m.1 != "credentials").map Prod.fst
      = ["label", "plan", "name", "tags", "instance_guid", "instance_name", "binding_guid",
        "binding_name", "syslog_drain_url", "volume_mounts"] := rfl
  have hnames : b.attributeEntries.map Prod.fst
      = ((b.presented.filter fun m => m.1 != "credentials").map Prod.fst).map fileName := by
    rw [attributeEntries, List.map_map, List.map_map]
    rfl
  rw [hnames, hpresented, List.map_congr_left fun key _ => fileName_eq key]
  rfl

/-! ## What a binding writes -/

/-- The values that become no file. -/
def isVoid : Json → Bool
  | .null => true
  | .array [] => true
  | .object [] => true
  | _ => false

/-- The text of a value in a file: a text as it is, any other value as compact JSON. -/
def fileText : Json → String
  | .string s => s
  | j => j.compact

theorem content?_eq (j : Json) :
    content? j = if isVoid j = true then none else some (fileText j) := by
  cases j with
  | array items => cases items <;> rfl
  | object members => cases members <;> rfl
  | _ => rfl

/-- The file of an entry, unless its value is void. -/
theorem file?_eq (directory : String) (e : String × Json) :
    file? directory e = if isVoid e.2 = true then none
      else some ⟨directory ++ "/" ++ e.1, fileText e.2⟩ := by
  rw [file?, content?_eq]
  cases isVoid e.2 <;> rfl

/-- What the platform writes about a binding. -/
def ownEntries (b : ServiceBinding) : Json.Members := [
  ("label", .string b.serviceInstance.label),
  ("plan", textOrNull b.serviceInstance.plan),
  ("name", .string b.displayName),
  ("tags", .array (b.serviceInstance.tags.map .string)),
  ("instance-guid", .string b.serviceInstance.guid),
  ("instance-name", .string b.serviceInstance.name),
  ("binding-guid", .string b.guid),
  ("binding-name", textOrNull b.name),
  ("syslog-drain-url", textOrNull b.syslogDrainUrl),
  ("volume-mounts", .array (b.volumes.map presentedVolume)),
  ("type", .string b.serviceInstance.label),
  ("provider", .string b.serviceInstance.label)]

/-- What is written for a binding: its credentials, and then what the platform says about it. -/
def allEntries (b : ServiceBinding) : Json.Members := b.credentials.members ++ b.ownEntries

theorem keys_ownEntries (b : ServiceBinding) : b.ownEntries.map Prod.fst = fixedNames := rfl

/-- The attributes of a binding and the two files of its service, by their keys and values. -/
theorem attributeEntries_append (b : ServiceBinding) :
    b.attributeEntries ++ [("type", .string b.serviceInstance.label),
      ("provider", .string b.serviceInstance.label)] = b.ownEntries := by
  generalize happended : b.attributeEntries ++ [("type", Json.string b.serviceInstance.label),
    ("provider", .string b.serviceInstance.label)] = appended
  have hkeys : appended.map Prod.fst = fixedNames := by
    rw [← happended, List.map_append]
    exact keys_attributeEntries b
  have hvalues : appended.map Prod.snd = b.ownEntries.map Prod.snd := by
    rw [← happended]
    rfl
  rw [List.zip_of_prod hkeys hvalues, ← List.zip_of_prod (keys_ownEntries b) rfl]

theorem entries_eq (b : ServiceBinding) : b.entries = b.allEntries := by
  rw [entries, List.append_assoc, attributeEntries_append, allEntries]

/-- The keys under which a binding writes: those of its credentials, then those of the platform. -/
theorem keys_entries (b : ServiceBinding) :
    b.entries.map Prod.fst = b.credentials.members.map Prod.fst ++ fixedNames := by
  rw [entries_eq, allEntries, List.map_append, keys_ownEntries]

/-- The bytes of what a binding writes, in paths and contents. Every entry counts that is not void,
also where a later one has the same key. -/
def bytesOf (b : ServiceBinding) : Nat :=
  ((b.allEntries.filter fun e => !isVoid e.2).map fun e =>
    (b.displayName ++ "/" ++ e.1).utf8ByteSize + (fileText e.2).utf8ByteSize).sum

/-- The bytes of everything that finished bindings write. -/
def writtenBytes (bindings : List ServiceBinding) : Nat := ((finished bindings).map bytesOf).sum

/-- The bytes of the files that entries come to in a directory. -/
theorem totalSize_filterMap_file? (directory : String) (entries : Json.Members) :
    MountedFile.totalSize (entries.filterMap (file? directory))
      = ((entries.filter fun e => !isVoid e.2).map fun e =>
          (directory ++ "/" ++ e.1).utf8ByteSize + (fileText e.2).utf8ByteSize).sum := by
  induction entries with
  | nil => rfl
  | cons e rest ih =>
      have hfile := file?_eq directory e
      cases hvoid : isVoid e.2 with
      | true =>
          rw [hvoid, if_pos rfl] at hfile
          rw [List.filterMap_cons_none hfile, ih, List.filter_cons_of_neg (by simp [hvoid])]
      | false =>
          rw [hvoid, if_neg Bool.false_ne_true] at hfile
          rw [List.filterMap_cons_some hfile, MountedFile.totalSize, ih,
            List.filter_cons_of_pos (by simp [hvoid]), List.map_cons, List.sum_cons]
          rfl

theorem totalSize_writes (b : ServiceBinding) : MountedFile.totalSize b.writes = b.bytesOf := by
  rw [writes, totalSize_filterMap_file?, entries_eq, bytesOf]

/-- The bytes of all writes, binding by binding. -/
theorem totalSize_flatMap_writes (bindings : List ServiceBinding) :
    MountedFile.totalSize (bindings.flatMap writes) = (bindings.map bytesOf).sum := by
  induction bindings with
  | nil => rfl
  | cons b rest ih =>
      rw [List.flatMap_cons, MountedFile.totalSize_append, totalSize_writes, ih, List.map_cons,
        List.sum_cons]

/-! ## Faults in the names -/

/-- The keys of the credentials. -/
def credentialKeys (b : ServiceBinding) : List String := b.credentials.members.map Prod.fst

/-- Bindings without a fault in their names. -/
structure WellNamed (bindings : List ServiceBinding) : Prop where
  named : ∀ b ∈ bindings, Named b.displayName
  distinct : (bindings.map displayName).Nodup
  keys : ∀ b ∈ bindings, ∀ key ∈ b.credentialKeys, Named key

/-- The first fault in the names of a binding, after bindings with the names `taken`. -/
inductive NameFault (taken : List String) (b : ServiceBinding) : Fault → Prop
  | badName (bad : ¬ Named b.displayName) : NameFault taken b (.badBindingName b.displayName)
  | repeated (named : Named b.displayName) (again : b.displayName ∈ taken) :
      NameFault taken b (.repeatedName b.displayName)
  | badKey (named : Named b.displayName) (fresh : b.displayName ∉ taken)
      {before : List String} {key : String} {after : List String}
      (split : b.credentialKeys = before ++ key :: after) (good : ∀ k ∈ before, Named k)
      (bad : ¬ Named key) : NameFault taken b (.badFileName key)

/-- The fault of the first binding that has one in its names. -/
def FirstNameFault (bindings : List ServiceBinding) (fault : Fault) : Prop :=
  ∃ before b after, bindings = before ++ b :: after ∧ WellNamed before ∧
    NameFault (before.map displayName) b fault

variable {taken : List String} {b : ServiceBinding} {fault : Fault}

/-- The first key of a binding that is no name is a key of its credentials. -/
theorem find?_not_isName (b : ServiceBinding) :
    (b.entries.find? fun e => !isName e.1).map Prod.fst
      = b.credentialKeys.find? fun key => !isName key := by
  have hfixed : fixedNames.find? (fun key => !isName key) = none := by
    rw [List.find?_eq_none]
    intro key hkey
    have hname := isName_iff.2 (named_of_mem_fixedNames key hkey)
    simp [hname]
  have hkeys : (b.entries.map Prod.fst).find? (fun key => !isName key)
      = b.credentialKeys.find? fun key => !isName key := by
    rw [keys_entries, List.find?_append, hfixed, Option.or_none]
    rfl
  rw [← hkeys, List.find?_map]
  rfl

/-- The names of a binding are looked at in this order: its own name, whether it is taken, and the
keys of its credentials. -/
theorem nameFault?_eq (taken : List String) (b : ServiceBinding) :
    nameFault? taken b =
      if ¬ Named b.displayName then some (.badBindingName b.displayName)
      else if b.displayName ∈ taken then some (.repeatedName b.displayName)
      else (b.credentialKeys.find? fun key => !isName key).map .badFileName := by
  have hname : (!isName b.displayName) = true ↔ ¬ Named b.displayName := by
    rw [Bool.not_eq_true', ← Bool.not_eq_true, isName_iff]
  have htaken : taken.contains b.displayName = true ↔ b.displayName ∈ taken :=
    List.contains_iff_mem
  simp only [nameFault?, hname, htaken, ← find?_not_isName, Option.map_map]
  rfl

/-- The first key that is no name, with the names before it. -/
theorem find?_not_isName_eq_some {keys : List String} {key : String} :
    (keys.find? fun key => !isName key) = some key ↔ ¬ Named key ∧ ∃ before after,
      keys = before ++ key :: after ∧ ∀ k ∈ before, Named k := by
  rw [List.find?_eq_some_iff_append]
  simp only [Bool.not_not, Bool.not_eq_true', ← Bool.not_eq_true, isName_iff]

theorem find?_not_isName_eq_none {keys : List String} :
    (keys.find? fun key => !isName key) = none ↔ ∀ key ∈ keys, Named key := by
  rw [List.find?_eq_none]
  simp only [Bool.not_eq_true', Bool.not_eq_false, isName_iff]

theorem nameFault?_eq_none :
    nameFault? taken b = none ↔ Named b.displayName ∧ b.displayName ∉ taken ∧
      ∀ key ∈ b.credentialKeys, Named key := by
  rw [nameFault?_eq]
  by_cases named : Named b.displayName
  · rw [if_neg (not_not_intro named)]
    by_cases again : b.displayName ∈ taken
    · simp [again]
    · rw [if_neg again, Option.map_eq_none_iff, find?_not_isName_eq_none]
      simp [named, again]
  · simp [named]

theorem nameFault?_eq_some : nameFault? taken b = some fault ↔ NameFault taken b fault := by
  rw [nameFault?_eq]
  constructor
  · intro h
    by_cases named : Named b.displayName
    · rw [if_neg (not_not_intro named)] at h
      by_cases again : b.displayName ∈ taken
      · rw [if_pos again] at h
        cases h
        exact .repeated named again
      · rw [if_neg again] at h
        obtain ⟨key, hkey, rfl⟩ := Option.map_eq_some_iff.1 h
        obtain ⟨bad, before, after, split, good⟩ := find?_not_isName_eq_some.1 hkey
        exact .badKey named again split good bad
    · rw [if_pos named] at h
      cases h
      exact .badName named
  · intro h
    cases h with
    | badName bad => rw [if_pos bad]
    | repeated named again => rw [if_neg (not_not_intro named), if_pos again]
    | badKey named fresh split good bad =>
        rw [if_neg (not_not_intro named), if_neg fresh,
          find?_not_isName_eq_some.2 ⟨bad, _, _, split, good⟩]
        rfl

theorem wellNamed_cons {rest : List ServiceBinding} :
    WellNamed (b :: rest) ↔ Named b.displayName ∧ (∀ key ∈ b.credentialKeys, Named key) ∧
      (∀ c ∈ rest, c.displayName ≠ b.displayName) ∧ WellNamed rest := by
  constructor
  · intro h
    obtain ⟨named, distinct, keys⟩ := h
    obtain ⟨hb, hrest⟩ := List.nodup_cons.1 distinct
    refine ⟨named b List.mem_cons_self, keys b List.mem_cons_self, ?_, ?_, hrest, ?_⟩
    · intro c hc e
      exact hb (List.mem_map.2 ⟨c, hc, e⟩)
    · exact fun c hc => named c (List.mem_cons_of_mem b hc)
    · exact fun c hc => keys c (List.mem_cons_of_mem b hc)
  · intro h
    obtain ⟨hnamed, hkeys, hfresh, named, distinct, keys⟩ := h
    refine ⟨List.forall_mem_cons.2 ⟨hnamed, named⟩, ?_, List.forall_mem_cons.2 ⟨hkeys, keys⟩⟩
    refine List.nodup_cons.2 ⟨fun hb => ?_, distinct⟩
    obtain ⟨c, hc, e⟩ := List.mem_map.1 hb
    exact hfresh c hc e

theorem namesFault?_cons_eq_none {rest : List ServiceBinding} :
    namesFault? taken (b :: rest) = none
      ↔ nameFault? taken b = none ∧ namesFault? (b.displayName :: taken) rest = none := by
  rw [namesFault?]
  cases nameFault? taken b <;> simp

theorem namesFault?_cons_eq_some {rest : List ServiceBinding} :
    namesFault? taken (b :: rest) = some fault ↔ nameFault? taken b = some fault ∨
      nameFault? taken b = none ∧ namesFault? (b.displayName :: taken) rest = some fault := by
  rw [namesFault?]
  cases nameFault? taken b <;> simp

/-- Bindings have no fault in their names when they are well named and none of their names was taken
before. -/
theorem namesFault?_eq_none {bindings : List ServiceBinding} :
    namesFault? taken bindings = none
      ↔ WellNamed bindings ∧ ∀ b ∈ bindings, b.displayName ∉ taken := by
  induction bindings generalizing taken with
  | nil =>
      have hnil : WellNamed [] := ⟨by simp, by simp, by simp⟩
      simp [namesFault?, hnil]
  | cons b rest ih =>
      rw [namesFault?_cons_eq_none, nameFault?_eq_none, ih, wellNamed_cons, List.forall_mem_cons]
      simp only [List.mem_cons, not_or, forall_and]
      constructor
      · intro h
        obtain ⟨⟨named, fresh, keys⟩, wellNamed, distinct, freshRest⟩ := h
        exact ⟨⟨named, keys, distinct, wellNamed⟩, fresh, freshRest⟩
      · intro h
        obtain ⟨⟨named, keys, distinct, wellNamed⟩, fresh, freshRest⟩ := h
        exact ⟨⟨named, fresh, keys⟩, wellNamed, distinct, freshRest⟩

theorem namesFault?_nil_eq_none {bindings : List ServiceBinding} :
    namesFault? [] bindings = none ↔ WellNamed bindings := by
  rw [namesFault?_eq_none]
  exact and_iff_left fun _ _ => List.not_mem_nil

/-- The names of the bindings before a faulty one are the names that it finds taken. -/
theorem namesFault?_eq_some_iff_append {bindings : List ServiceBinding} :
    namesFault? taken bindings = some fault ↔ ∃ before b after, bindings = before ++ b :: after ∧
      namesFault? taken before = none ∧
      nameFault? ((before.map displayName).reverse ++ taken) b = some fault := by
  induction bindings generalizing taken with
  | nil => simp [namesFault?]
  | cons b rest ih =>
      rw [namesFault?_cons_eq_some]
      constructor
      · intro hx
        rcases hx with h | ⟨hb, hrest⟩
        · exact ⟨[], b, rest, rfl, rfl, h⟩
        · obtain ⟨before, c, after, rfl, hbefore, hc⟩ := ih.1 hrest
          refine ⟨b :: before, c, after, rfl, namesFault?_cons_eq_none.2 ⟨hb, hbefore⟩, ?_⟩
          simpa using hc
      · intro hx
        obtain ⟨before, c, after, hsplit, hbefore, hc⟩ := hx
        cases before with
        | nil =>
            obtain ⟨rfl, rfl⟩ := List.cons.inj hsplit
            exact .inl hc
        | cons a before =>
            obtain ⟨rfl, rfl⟩ := List.cons.inj hsplit
            obtain ⟨hb, hbefore⟩ := namesFault?_cons_eq_none.1 hbefore
            refine .inr ⟨hb, ih.2 ⟨before, c, after, rfl, hbefore, ?_⟩⟩
            simpa using hc

theorem NameFault.of_mem_iff {taken' : List String} (h : ∀ s, s ∈ taken ↔ s ∈ taken')
    (hf : NameFault taken b fault) : NameFault taken' b fault := by
  cases hf with
  | badName bad => exact .badName bad
  | repeated named again => exact .repeated named ((h _).1 again)
  | badKey named fresh split good bad =>
      exact .badKey named (fun again => fresh ((h _).2 again)) split good bad

/-- The fault in the names of bindings is that of the first binding that has one. -/
theorem namesFault?_eq_some {bindings : List ServiceBinding} :
    namesFault? [] bindings = some fault ↔ FirstNameFault bindings fault := by
  -- Names are taken at the front, so they stand in reverse; only which ones they are matters.
  have hmem : ∀ (before : List ServiceBinding) (s : String),
      s ∈ (before.map displayName).reverse ++ [] ↔ s ∈ before.map displayName := by
    intro before s
    rw [List.append_nil, List.mem_reverse]
  rw [namesFault?_eq_some_iff_append]
  constructor
  · intro h
    obtain ⟨before, b, after, hsplit, hbefore, hb⟩ := h
    exact ⟨before, b, after, hsplit, namesFault?_nil_eq_none.1 hbefore,
      (nameFault?_eq_some.1 hb).of_mem_iff (hmem before)⟩
  · intro h
    obtain ⟨before, b, after, hsplit, hbefore, hb⟩ := h
    exact ⟨before, b, after, hsplit, namesFault?_nil_eq_none.2 hbefore,
      nameFault?_eq_some.2 (hb.of_mem_iff fun s => (hmem before s).symm)⟩

/-! ## The answers -/

/-- A fault in the names goes before everything else. -/
theorem perBinding_of_nameFault {bindings : List ServiceBinding} {fault : Fault}
    (h : namesFault? [] (finished bindings) = some fault) : perBinding bindings = .error fault := by
  simp only [perBinding, h]

/-- Without a fault in the names, the bytes of all writes decide. -/
theorem perBinding_of_no_nameFault {bindings : List ServiceBinding}
    (h : namesFault? [] (finished bindings) = none) :
    perBinding bindings =
      if writtenBytes bindings ≤ maxBytes then
        .ok (MountedFile.kept ((finished bindings).flatMap writes))
      else .error (.tooLarge (writtenBytes bindings)) := by
  have hbytes : (FileSet.ofWrites ((finished bindings).flatMap writes)).totalBytes
      = writtenBytes bindings := by
    rw [FileSet.totalBytes_ofWrites, totalSize_flatMap_writes, writtenBytes]
  simp only [perBinding, h, hbytes, FileSet.toList_ofWrites]

/-- The files of well named bindings are what is left of all their writes. -/
theorem perBinding_eq_ok {bindings : List ServiceBinding} {files : List MountedFile} :
    perBinding bindings = .ok files ↔ WellNamed (finished bindings) ∧
      writtenBytes bindings ≤ maxBytes ∧
      MountedFile.kept ((finished bindings).flatMap writes) = files := by
  rw [← namesFault?_nil_eq_none]
  cases hnames : namesFault? [] (finished bindings) with
  | some fault => simp [perBinding_of_nameFault hnames]
  | none =>
      rw [perBinding_of_no_nameFault hnames]
      by_cases hsize : writtenBytes bindings ≤ maxBytes <;> simp [hsize]

/-- Sizes are looked at when no name is at fault. -/
theorem perBinding_eq_error {bindings : List ServiceBinding} {fault : Fault} :
    perBinding bindings = .error fault ↔ FirstNameFault (finished bindings) fault ∨
      WellNamed (finished bindings) ∧ maxBytes < writtenBytes bindings ∧
        fault = .tooLarge (writtenBytes bindings) := by
  rw [← namesFault?_nil_eq_none, ← namesFault?_eq_some]
  cases hnames : namesFault? [] (finished bindings) with
  | some found => simp [perBinding_of_nameFault hnames]
  | none =>
      rw [perBinding_of_no_nameFault hnames]
      by_cases hsize : writtenBytes bindings ≤ maxBytes
      · simp [hsize, Nat.not_lt.2 hsize]
      · simp [hsize, Nat.not_le.1 hsize, eq_comm]

/-- No file name is at fault but a key of the credentials. -/
theorem not_named_of_perBinding_eq_badFileName {bindings : List ServiceBinding} {name : String}
    (h : perBinding bindings = .error (.badFileName name)) :
    ¬ Named name ∧ ∃ b ∈ finished bindings, name ∈ b.credentialKeys := by
  rcases perBinding_eq_error.1 h with ⟨before, b, after, hsplit, -, hb⟩ | ⟨-, -, hsize⟩
  · cases hb with
    | badKey named fresh split good bad =>
        refine ⟨bad, b, ?_, ?_⟩
        · rw [hsplit]
          exact List.mem_append_right before List.mem_cons_self
        · rw [split]
          exact List.mem_append_right _ List.mem_cons_self
  · cases hsize

/-- **The answers to a list of bindings.** Only the finished ones count. They become files exactly
when they are well named and write at most a million bytes, those of replaced files included, and
then the files that are left have no more. Otherwise the first fault in a name is named, or else the
bytes that were written. The files of the platform are never at fault. -/
theorem perBinding_served_or_refused (bindings : List ServiceBinding) :
    ((∃ files, perBinding bindings = .ok files) ↔ WellNamed (finished bindings) ∧
      writtenBytes bindings ≤ 1000000) ∧
    (∀ files, perBinding bindings = .ok files →
      (files.map fun f => f.path.utf8ByteSize + f.content.utf8ByteSize).sum ≤ 1000000) ∧
    (∀ fault, perBinding bindings = .error fault ↔ FirstNameFault (finished bindings) fault ∨
      WellNamed (finished bindings) ∧ 1000000 < writtenBytes bindings ∧
        fault = .tooLarge (writtenBytes bindings)) ∧
    (∀ name, perBinding bindings = .error (.badFileName name) →
      (∃ b ∈ finished bindings, name ∈ b.credentialKeys) ∧
        ∀ b : ServiceBinding, name ∉ b.attributeEntries.map Prod.fst ++ ["type", "provider"]) := by
  refine ⟨?_, ?_, fun fault => perBinding_eq_error, ?_⟩
  · simp only [perBinding_eq_ok]
    constructor
    · intro hx
      obtain ⟨files, wellNamed, hsize, -⟩ := hx
      exact ⟨wellNamed, hsize⟩
    · intro hx
      obtain ⟨wellNamed, hsize⟩ := hx
      exact ⟨_, wellNamed, hsize, rfl⟩
  · intro files h
    obtain ⟨-, hsize, rfl⟩ := perBinding_eq_ok.1 h
    have hkept := MountedFile.totalSize_kept_le ((finished bindings).flatMap writes)
    rw [totalSize_flatMap_writes, MountedFile.totalSize_eq_sum] at hkept
    exact Nat.le_trans hkept hsize
  · intro name h
    obtain ⟨bad, hkey⟩ := not_named_of_perBinding_eq_badFileName h
    refine ⟨hkey, fun b hb => ?_⟩
    rw [keys_attributeEntries] at hb
    exact bad (named_of_mem_fixedNames name hb)

/-- A binding with a credential that an attribute overwrites, and one that is never written. -/
def overwritten : ServiceBinding where
  guid := "b1"
  name := some "db-1.main"
  serviceInstance := ⟨"i1", "orders", "mysql", none, []⟩
  credentials := .ofMembers [("label", .string "other"), ("port", .null)]
  syslogDrainUrl := none
  volumes := []
  lastOperation := none

/-- A binding that does not count, whatever its name. -/
def unfinished : ServiceBinding :=
  { overwritten with name := some "NOT READY", lastOperation := some ⟨.create, .inProgress⟩ }

/-- A binding with a key at fault, though its value is never written. -/
def shouting : ServiceBinding :=
  { overwritten with
    name := some "db-2"
    credentials := .ofMembers [("host", .string "db"), ("PORT", .null)] }

/-- Bindings that become files, and bindings that are refused for a key. -/
theorem perBinding_served_or_refused_shouting :
    (∃ files, perBinding [unfinished, overwritten] = .ok files ∧
      (files.map fun f => f.path.utf8ByteSize + f.content.utf8ByteSize).sum ≤ 1000000) ∧
    perBinding [unfinished, overwritten, shouting] = .error (.badFileName "PORT") ∧
    (∃ b ∈ finished [unfinished, overwritten, shouting], "PORT" ∈ b.credentialKeys) ∧
      ∀ b : ServiceBinding, "PORT" ∉ b.attributeEntries.map Prod.fst ++ ["type", "provider"] := by
  have wellNamed : WellNamed [overwritten] := ⟨by decide, by decide, by decide⟩
  have hsize : writtenBytes [unfinished, overwritten] ≤ 1000000 := by decide
  have hsplit : shouting.credentialKeys = ["host"] ++ "PORT" :: [] := rfl
  have hfault : NameFault ["db-1.main"] shouting (.badFileName "PORT") :=
    .badKey (by decide) (by decide) hsplit (by decide) (by decide)
  obtain ⟨hserved, hbytes, -, -⟩ := perBinding_served_or_refused [unfinished, overwritten]
  obtain ⟨-, -, hrefused, hkey⟩ :=
    perBinding_served_or_refused [unfinished, overwritten, shouting]
  obtain ⟨files, hfiles⟩ := hserved.2 ⟨wellNamed, hsize⟩
  have herror := (hrefused (.badFileName "PORT")).2
    (.inl ⟨[overwritten], shouting, [], rfl, wellNamed, hfault⟩)
  exact ⟨⟨files, hfiles, hbytes files hfiles⟩, herror, hkey "PORT" herror⟩

end CellRecipe.ServiceBinding
