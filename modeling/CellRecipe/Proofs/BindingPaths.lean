import CellRecipe.CommandLine.FileStore
import CellRecipe.Proofs.BindingDirectories

/-!
# Where the files of bindings are found

A file of a binding goes by the path of its directory and its key. Both are names, and a name has no
slash, so the path has two steps. A name may be made of dots alone, however, and to a file system a
single dot is no step at all, and two dots are a step back. Such a path does not lead to a file in
the directory of its binding: what a binding named with two dots writes is found outside the
directory that holds all the others, and a key of one dot is the directory itself.

Paths are followed here as a file system does it. Without names of dots the files of bindings are
where they belong, and one such name is enough to have a file somewhere else.

## Main definitions

* `Path.destination`: where a path leads.
* `ServiceBinding.IsDots`: the names that are no steps down.
* `ServiceBinding.Contained`: every file is in the directory of its binding.

## Main results

* `ServiceBinding.destination_inside_iff`: a path of two names leads down twice unless one of them
  is made of dots.
* `ServiceBinding.contained_iff`: the files of bindings are where they belong unless a name is made
  of dots.
* `ServiceBinding.perBinding_contained`: the same, with the paths that the files go by.
-/

namespace CellRecipe

open MountedFile

/-! ## Following a path -/

namespace Path

/-- Where a way ends, seen from where it starts: so many directories up, and then down again. -/
structure Destination where
  up : Nat
  down : List (List Char)
  deriving DecidableEq

/-- One step on the way. Two dots lead back, and up where there is no way back. -/
def Destination.step (d : Destination) (name : List Char) : Destination :=
  if name = ['.', '.'] then
    if d.down = [] then ⟨d.up + 1, []⟩ else ⟨d.up, d.down.dropLast⟩
  else ⟨d.up, d.down ++ [name]⟩

theorem Destination.step_dots (d : Destination) :
    d.step ['.', '.'] = if d.down = [] then ⟨d.up + 1, []⟩ else ⟨d.up, d.down.dropLast⟩ := rfl

theorem Destination.step_of_ne {name : List Char} (h : name ≠ ['.', '.']) (d : Destination) :
    d.step name = ⟨d.up, d.down ++ [name]⟩ :=
  if_neg h

/-- Where a path leads from the directory in which it starts. -/
def destination (p : Path) : Destination := p.steps.foldl Destination.step ⟨0, []⟩

/-- A way leads no further down than it has steps down. -/
theorem Destination.length_down_foldl_step_le (steps : List (List Char)) (d : Destination) :
    (steps.foldl step d).down.length
      ≤ d.down.length + (steps.filter fun name => name != ['.', '.']).length := by
  induction steps generalizing d with
  | nil => exact Nat.le_refl _
  | cons name rest ih =>
      rw [List.foldl_cons]
      have hrest := ih (d.step name)
      by_cases hdots : name = ['.', '.']
      · subst hdots
        have hback : (d.step ['.', '.']).down.length ≤ d.down.length := by
          rw [step_dots]
          split <;> simp
        have hskip : (['.', '.'] :: rest).filter (fun name => name != ['.', '.'])
            = rest.filter fun name => name != ['.', '.'] := rfl
        rw [hskip]
        omega
      · have hdown : (d.step name).down.length = d.down.length + 1 := by
          rw [step_of_ne hdots, List.length_append]
          rfl
        have hkeep : (name :: rest).filter (fun name => name != ['.', '.'])
            = name :: rest.filter fun name => name != ['.', '.'] :=
          List.filter_cons_of_pos (bne_iff_ne.2 hdots)
        rw [hkeep, List.length_cons]
        omega

end Path

namespace ServiceBinding

open CellRecipe.Path

/-! ## Paths of two names -/

/-- The name is one of the two that a directory has for itself and for the one above it. -/
def IsDots (s : String) : Prop := s = "." ∨ s = ".."

instance (s : String) : Decidable (IsDots s) := inferInstanceAs (Decidable (s = "." ∨ s = ".."))

theorem not_isDots_iff {s : String} :
    ¬ IsDots s ↔ s.toList ≠ ['.'] ∧ s.toList ≠ ['.', '.'] := by
  have hone : s = "." ↔ s.toList = ['.'] := String.toList_inj.symm
  have htwo : s = ".." ↔ s.toList = ['.', '.'] := String.toList_inj.symm
  rw [IsDots, hone, htwo, not_or]

/-- The path of a file in a directory has two steps, less those of a single dot. -/
theorem steps_inside {directory key : String} (hd : Named directory) (hk : Named key) :
    (Path.ofText (directory ++ "/" ++ key)).steps
      = [directory.toList, key.toList].filter fun name => name != ['.'] := by
  have htext : (directory ++ "/" ++ key).toList = directory.toList ++ '/' :: key.toList := by
    simp
  have hsplit : Text.splitAll '/' (directory ++ "/" ++ key).toList
      = [directory.toList, key.toList] := by
    rw [htext, Text.splitAll_append (slash_not_mem_of_named hd),
      Text.splitAll_of_not_mem (slash_not_mem_of_named hk)]
  show (Text.splitAll '/' (directory ++ "/" ++ key).toList).filter _ = _
  rw [hsplit]
  refine List.filter_congr fun name hname => ?_
  -- Names are not empty, so only single dots are left out.
  have hnonempty : name.isEmpty = false := by
    rw [List.isEmpty_eq_false_iff, ← List.length_pos_iff]
    simp only [List.mem_cons, List.not_mem_nil, or_false] at hname
    rcases hname with rfl | rfl
    · exact hd.nonempty
    · exact hk.nonempty
  rw [hnonempty, Bool.false_or]
  rfl

/-- A path of two names leads to the second one in the directory of the first one, unless one of
them is made of dots. -/
theorem destination_inside_iff {directory key : String} (hd : Named directory) (hk : Named key) :
    (Path.ofText (directory ++ "/" ++ key)).destination = ⟨0, [directory.toList, key.toList]⟩
      ↔ ¬ IsDots directory ∧ ¬ IsDots key := by
  rw [destination, steps_inside hd hk, not_isDots_iff, not_isDots_iff]
  constructor
  · intro h
    -- The way leads down twice, so both of its steps are there and both lead down.
    have hlength := Destination.length_down_foldl_step_le
      ([directory.toList, key.toList].filter fun name => name != ['.']) ⟨0, []⟩
    rw [h, List.filter_filter] at hlength
    have hall : ([directory.toList, key.toList].filter fun name =>
        name != ['.', '.'] && name != ['.']).length = [directory.toList, key.toList].length :=
      Nat.le_antisymm (List.length_filter_le _ _) (by simpa using hlength)
    have hdown := List.length_filter_eq_length_iff.1 hall
    have hdirectory := hdown directory.toList (by simp)
    have hkey := hdown key.toList (by simp)
    simp only [Bool.and_eq_true, bne_iff_ne] at hdirectory hkey
    exact ⟨hdirectory.symm, hkey.symm⟩
  · intro h
    obtain ⟨⟨hd1, hd2⟩, hk1, hk2⟩ := h
    have hkeep : [directory.toList, key.toList].filter (fun name => name != ['.'])
        = [directory.toList, key.toList] := by simp [hd1, hk1]
    rw [hkeep, List.foldl_cons, List.foldl_cons, List.foldl_nil, Destination.step_of_ne hd2,
      Destination.step_of_ne hk2]
    rfl

-- A file outside the directory that holds all the others, and one file for two bindings.
example : (Path.ofText "../label").destination = ⟨1, ["label".toList]⟩ ∧
    (Path.ofText "./db").destination = (Path.ofText "db/.").destination := by decide

/-! ## The files of bindings -/

/-- The file is one of the binding's own: its path has the name of the binding before its only
slash. -/
def Owns (b : ServiceBinding) (f : MountedFile) : Prop :=
  ∃ key, '/' ∉ key.toList ∧ f.path = b.displayName ++ "/" ++ key

/-- Every file is in the directory of its binding. No path has a segment of dots, so it leads right
below the directory that is named for a finished binding, and those of different bindings lead to
different places. -/
structure Contained (bindings : List ServiceBinding) (files : List MountedFile) : Prop where
  below : ∀ f ∈ files, ∃ b ∈ finished bindings, ∃ key, f.path = b.displayName ++ "/" ++ key ∧
    ¬ IsDots b.displayName ∧ ¬ IsDots key ∧
    (Path.ofText f.path).destination = ⟨0, [b.displayName.toList, key.toList]⟩
  apart : ∀ b ∈ finished bindings, ∀ c ∈ finished bindings, b.displayName ≠ c.displayName →
    ∀ f ∈ files, ∀ g ∈ files, b.Owns f → c.Owns g →
      (Path.ofText f.path).destination ≠ (Path.ofText g.path).destination

variable {bindings : List ServiceBinding} {files : List MountedFile}

/-- The paths of files are those of the keys to which finished bindings write. -/
theorem mem_paths_iff (h : perBinding bindings = .ok files) {path : String} :
    path ∈ files.map MountedFile.path
      ↔ ∃ b ∈ finished bindings, ∃ key ∈ b.writtenKeys, path = b.displayName ++ "/" ++ key := by
  obtain ⟨wellNamed, -, rfl⟩ := perBinding_eq_ok.1 h
  rw [kept_flatMap_writes wellNamed, List.map_flatMap, List.mem_flatMap]
  refine exists_congr fun b => and_congr_right fun _ => ?_
  have hpaths : ((kept b.directoryWrites).map (inside b.displayName)).map MountedFile.path
      = ((kept b.directoryWrites).map MountedFile.path).map fun key =>
        b.displayName ++ "/" ++ key := by
    rw [List.map_map, List.map_map]
    rfl
  rw [hpaths, List.mem_map]
  simp only [(directory_kept b).keys, eq_comm]

/-- The keys to which well named bindings write are names. -/
theorem named_of_mem_writtenKeys (wellNamed : WellNamed bindings) {b : ServiceBinding}
    (hb : b ∈ bindings) {key : String} (hkey : key ∈ b.writtenKeys) : Named key := by
  rw [← paths_directoryWrites] at hkey
  obtain ⟨f, hf, rfl⟩ := List.mem_map.1 hkey
  exact named_of_mem_directoryWrites wellNamed hb hf

/-- Every file goes by the names of its binding and of its key. -/
theorem exists_named_of_mem (h : perBinding bindings = .ok files) {f : MountedFile}
    (hf : f ∈ files) : ∃ b ∈ finished bindings, ∃ key ∈ b.writtenKeys, Named b.displayName ∧
      Named key ∧ f.path = b.displayName ++ "/" ++ key := by
  obtain ⟨wellNamed, -, -⟩ := perBinding_eq_ok.1 h
  obtain ⟨b, hb, key, hkey, hpath⟩ := (mem_paths_iff h).1 (List.mem_map_of_mem hf)
  exact ⟨b, hb, key, hkey, wellNamed.named b hb, named_of_mem_writtenKeys wellNamed hb hkey, hpath⟩

/-- Whatever a binding is, its label is in a file. -/
theorem label_mem_writtenKeys (b : ServiceBinding) : "label" ∈ b.writtenKeys := by
  have hlabel : ("label", Json.string b.serviceInstance.label) ∈ b.allEntries :=
    List.mem_append_right _ List.mem_cons_self
  exact List.mem_map.2 ⟨_, List.mem_filter.2 ⟨hlabel, rfl⟩, rfl⟩

/-- A path of two names is one of a binding's own exactly by the first of them. -/
theorem Owns.displayName_eq {b : ServiceBinding} {f : MountedFile} (h : b.Owns f)
    {directory key : String} (hd : Named directory) (hk : Named key)
    (hpath : f.path = directory ++ "/" ++ key) : b.displayName = directory := by
  obtain ⟨k, -, hown⟩ := h
  exact ((count_slash_of_named hd hk).2 b.displayName k (hpath.symm.trans hown)).1

/-- Without names of dots every file is in the directory of its binding. -/
theorem contained_of_not_isDots (h : perBinding bindings = .ok files)
    (plain : ∀ b ∈ finished bindings, ¬ IsDots b.displayName ∧
      ∀ key ∈ b.writtenKeys, ¬ IsDots key) : Contained bindings files := by
  have hbelow : ∀ f ∈ files, ∃ b ∈ finished bindings, ∃ key, Named b.displayName ∧ Named key ∧
      f.path = b.displayName ++ "/" ++ key ∧ ¬ IsDots b.displayName ∧ ¬ IsDots key ∧
      (Path.ofText f.path).destination = ⟨0, [b.displayName.toList, key.toList]⟩ := by
    intro f hf
    obtain ⟨b, hb, key, hkey, hname, hkeyName, hpath⟩ := exists_named_of_mem h hf
    obtain ⟨hdots, hkeys⟩ := plain b hb
    refine ⟨b, hb, key, hname, hkeyName, hpath, hdots, hkeys key hkey, ?_⟩
    rw [hpath]
    exact (destination_inside_iff hname hkeyName).2 ⟨hdots, hkeys key hkey⟩
  constructor
  · intro f hf
    obtain ⟨b, hb, key, -, -, hrest⟩ := hbelow f hf
    exact ⟨b, hb, key, hrest⟩
  · intro b _ c _ hne f hf g hg hown hown' hsame
    obtain ⟨b', -, key, hname, hkeyName, hpath, -, -, hdest⟩ := hbelow f hf
    obtain ⟨c', -, key', hname', hkeyName', hpath', -, -, hdest'⟩ := hbelow g hg
    rw [hdest, hdest'] at hsame
    have hfirst := (List.cons.inj (Destination.mk.inj hsame).2).1
    refine hne ?_
    rw [hown.displayName_eq hname hkeyName hpath, hown'.displayName_eq hname' hkeyName' hpath',
      String.toList_inj.1 hfirst]

/-- The files of bindings are where they belong exactly when no finished binding has a name of dots
and none writes to a key of dots. -/
theorem contained_iff (h : perBinding bindings = .ok files) :
    Contained bindings files ↔ ∀ b ∈ finished bindings, ¬ IsDots b.displayName ∧
      ∀ key ∈ b.writtenKeys, ¬ IsDots key := by
  obtain ⟨wellNamed, -, -⟩ := perBinding_eq_ok.1 h
  constructor
  · intro contained b hb
    -- Each key that is written has a file, and the file has the two names in its path.
    have hplain : ∀ key ∈ b.writtenKeys, ¬ IsDots b.displayName ∧ ¬ IsDots key := by
      intro key hkey
      obtain ⟨f, hf, hpath⟩ := List.mem_map.1 ((mem_paths_iff h).2 ⟨b, hb, key, hkey, rfl⟩)
      obtain ⟨c, -, k, hpath', hdots, hkeyDots, -⟩ := contained.below f hf
      obtain ⟨hsame, hsameKey⟩ := (count_slash_of_named (wellNamed.named b hb)
        (named_of_mem_writtenKeys wellNamed hb hkey)).2 c.displayName k (hpath.symm.trans hpath')
      rw [← hsame, ← hsameKey]
      exact ⟨hdots, hkeyDots⟩
    exact ⟨(hplain "label" b.label_mem_writtenKeys).1, fun key hkey => (hplain key hkey).2⟩
  · exact contained_of_not_isDots h

/--
**Names of dots decide where the files of bindings are.** When bindings become files, each file goes
by the name of a finished binding and the name of a key. All files are in the directories of their
bindings exactly when no finished binding has a name of dots and none of them writes to a key of
dots.
-/
theorem perBinding_contained (h : perBinding bindings = .ok files) :
    (∀ f ∈ files, ∃ b ∈ finished bindings, ∃ key ∈ b.writtenKeys, Named b.displayName ∧
      Named key ∧ f.path = b.displayName ++ "/" ++ key) ∧
    (Contained bindings files ↔ ∀ b ∈ finished bindings, ¬ IsDots b.displayName ∧
      ∀ key ∈ b.writtenKeys, ¬ IsDots key) := by
  constructor
  · intro f hf
    exact exists_named_of_mem h hf
  · exact contained_iff h

/-- A binding that goes by the name of the directory above. -/
def climbing : ServiceBinding :=
  { overwritten with
    guid := "b2"
    name := some ".."
    credentials := .ofMembers [("password", .string "secret")] }

theorem perBinding_contained_overwritten :
    ∃ files, perBinding [unfinished, overwritten] = .ok files ∧
      Contained [unfinished, overwritten] files := by
  have wellNamed : WellNamed [overwritten] := ⟨by decide, by decide, by decide⟩
  have hsize : writtenBytes [unfinished, overwritten] ≤ maxBytes := by decide
  have hserved : perBinding [unfinished, overwritten] = .ok _ :=
    perBinding_eq_ok.2 ⟨wellNamed, hsize, rfl⟩
  have hplain : ∀ b ∈ finished [unfinished, overwritten], ¬ IsDots b.displayName ∧
      ∀ key ∈ b.writtenKeys, ¬ IsDots key := by
    decide
  exact ⟨_, hserved, (perBinding_contained hserved).2.2 hplain⟩

/-- The files of a binding may be outside the directory that holds those of all bindings. -/
theorem not_all_contained :
    ¬ ∀ (bindings : List ServiceBinding) (files : List MountedFile),
        perBinding bindings = .ok files → Contained bindings files := by
  intro hall
  have wellNamed : WellNamed [climbing] := ⟨by decide, by decide, by decide⟩
  have hsize : writtenBytes [climbing] ≤ maxBytes := by decide
  have hserved : perBinding [climbing] = .ok _ := perBinding_eq_ok.2 ⟨wellNamed, hsize, rfl⟩
  have hdots := (contained_iff hserved).1 (hall _ _ hserved) climbing List.mem_cons_self
  exact hdots.1 (.inr rfl)

end ServiceBinding

end CellRecipe
