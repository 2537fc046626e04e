import CellRecipe.CommandLine.Program
import CellRecipe.Proofs.ValidSettings

/-!
# The output file

A command that builds a recipe passes several steps that may fail before it writes anything: its
settings are read, changed by the environment and validated, its request is read, and the recipe is
built of both. Here it is proved what is left behind at each end. If all steps succeed, the recipe
goes where the command says and nothing else changes, also where the file that is written is one of
those that were read. If one of them fails, all files are as they were.

The steps are said apart from the program, as conditions on the store, the environment and the
arguments. Files are told apart by their paths, not by the texts of these, so that `./a` and `a` are
one file.

## Main definitions

* `Program.Due`: the recipe that a command owes.
* `Program.Leaves`: the end of a command that could hand its recipe out.

## Main results

* `Path.ofText_text_ofText`: the text of a path names the path.
* `Program.build_eq_ok`: when a command ends with a recipe.
* `Program.carryOut_writes_once`: files change on success only, and then only the one.
-/

namespace CellRecipe

open Outcome CommandLine

/-! ## Paths and their texts -/

namespace Path

/-- A step of a path has a name without slashes, and not the one that means nothing. -/
theorem step_of_mem_ofText {s : String} {step : List Char} (h : step ∈ (ofText s).steps) :
    '/' ∉ step ∧ step ≠ [] ∧ step ≠ ['.'] := by
  obtain ⟨hmem, hkept⟩ := List.mem_filter.1 h
  refine ⟨Text.not_mem_of_mem_splitAll hmem, ?_, ?_⟩
  · rintro rfl
    exact absurd hkept (by decide)
  · rintro rfl
    exact absurd hkept (by decide)

/-- Steps that are joined by slashes are found again. -/
theorem filter_splitAll_intercalate (s : String) :
    (Text.splitAll '/' (['/'].intercalate (ofText s).steps)).filter
      (fun step => !(step.isEmpty || step == ['.'])) = (ofText s).steps := by
  by_cases hnone : (ofText s).steps = []
  · rw [hnone]
    rfl
  · have hslash : ∀ step ∈ (ofText s).steps, '/' ∉ step := fun step h => (step_of_mem_ofText h).1
    rw [Text.splitAll_intercalate hnone hslash, List.filter_eq_self]
    intro step h
    obtain ⟨-, hempty, hdot⟩ := step_of_mem_ofText h
    simp [hempty, hdot]

/-- A joined way from the directory at hand does not start in the root. -/
theorem head?_intercalate_ne (s : String) :
    (['/'].intercalate (ofText s).steps).head? ≠ some '/' := by
  cases hsteps : (ofText s).steps with
  | nil => simp [List.intercalate]
  | cons step rest =>
      have hmem : step ∈ (ofText s).steps := by simp [hsteps]
      obtain ⟨hslash, hempty, -⟩ := step_of_mem_ofText hmem
      obtain ⟨c, name, rfl⟩ := List.exists_cons_of_ne_nil hempty
      have hc : c ≠ '/' := by
        rintro rfl
        exact hslash List.mem_cons_self
      cases rest with
      | nil => simpa using hc
      | cons next rest => simpa [List.intercalate_cons_cons] using hc

/-- The text of a path names the path that it was made of. -/
theorem ofText_text_ofText (s : String) : ofText (ofText s).text = ofText s := by
  have hsteps := filter_splitAll_intercalate s
  cases habsolute : (ofText s).absolute with
  | true =>
      have htext : (ofText s).text.toList = '/' :: ['/'].intercalate (ofText s).steps := by
        simp [text, habsolute]
      have hsplit : Text.splitAll '/' ('/' :: ['/'].intercalate (ofText s).steps)
          = [] :: Text.splitAll '/' (['/'].intercalate (ofText s).steps) :=
        Text.splitAll_append List.not_mem_nil _
      have hname : ofText (ofText s).text = ⟨true, (ofText s).steps⟩ := by
        rw [ofText.eq_def (ofText s).text, htext, hsplit, List.filter_cons_of_neg (by decide),
          hsteps]
        rfl
      rw [hname, ← habsolute]
  | false =>
      have htext : (ofText s).text.toList = ['/'].intercalate (ofText s).steps := by
        simp [text, habsolute]
      have hname : ofText (ofText s).text = ⟨false, (ofText s).steps⟩ := by
        have hhead : ((['/'].intercalate (ofText s).steps).head? == some '/') = false :=
          beq_eq_false_iff_ne.2 (head?_intercalate_ne s)
        rw [ofText.eq_def (ofText s).text, htext, hsteps, hhead]
      rw [hname, ← habsolute]

/-- Texts that are normalized to the same text name the same path. -/
theorem ofText_eq_of_text_eq {s t : String} (h : (ofText s).text = (ofText t).text) :
    ofText s = ofText t := by
  rw [← ofText_text_ofText s, ← ofText_text_ofText t, h]

end Path

/-! ## Writing a file -/

namespace FileStore

/-- The store takes what is to be written, if a file is to be written at all. -/
def Takes (store : FileStore) (path : Option String) : Prop :=
  ∀ p, path = some p → store.writeFault? p = none

theorem exists_write_eq_ok (store : FileStore) (path content : String) :
    (∃ next, store.write path content = .ok next) ↔ store.writeFault? path = none := by
  unfold write
  cases store.writeFault? path <;> simp

theorem directories_write {store next : FileStore} {path content : String}
    (h : store.write path content = .ok next) : next.directories = store.directories := by
  unfold write at h
  cases hfault : store.writeFault? path with
  | some fault => simp [hfault] at h
  | none =>
      simp only [hfault, Except.ok.injEq] at h
      subst h
      rfl

/-- A file at another path keeps its content, and keeps missing if it was missing. -/
theorem get?_write_of_ne {store next : FileStore} {path content other : String}
    (h : store.write path content = .ok next) (hother : Path.ofText other ≠ Path.ofText path) :
    next.get? other = store.get? other := by
  rw [get?_write h, if_neg]
  intro htext
  exact hother (Path.ofText_eq_of_text_eq htext)

end FileStore

namespace Program

/-! ## The steps of a command -/

/-- A file holds a request, as the reader for its kind finds it. -/
inductive Holds {α : Type} (decode : Json.Source → Option α) (store : FileStore) (path : String)
    (found : α) : Prop
  | intro {text : String} {source : Json.Source} (content : store.read path = .ok text)
      (parses : Json.Source.parse? text = some source) (decodes : decode source = some found)

/-- The recipe that can be built for the arguments: the settings are there and valid once the
environment counts, the file holds a request, and both together give the recipe. -/
inductive Made {α : Type} (decode : Json.Source → Option α)
    (recipe : Settings → α → Except Refusal Recipe) (environment : Environment) (store : FileStore)
    (r : RecipeArguments) (built : Recipe) : Prop
  | intro {base : Settings} {found : α} (settings : Settings.Base store r.config base)
      (valid : (base.override environment).Valid) (request : Holds decode store r.input found)
      (builds : recipe (base.override environment) found = .ok built)

/-- The recipe that a command owes; commands that build no recipe owe none. -/
def Due (environment : Environment) (store : FileStore) : Command → Recipe → Prop
  | .stage r => Made StagingRequest.ofJson? Recipe.ofStaging environment store r
  | .run r => Made RunRequest.ofJson? Recipe.ofRun environment store r
  | _ => fun _ => False

theorem settings_eq_ok {environment : Environment} {store : FileStore} {path : Option String}
    {s : Settings} :
    settings environment store path = .ok s ↔ Settings.load environment store path = .ok s :=
  mapError_eq_ok

theorem request_eq_ok {α : Type} {decode : Json.Source → Option α} {store : FileStore}
    {path : String} {found : α} :
    request decode store path = .ok found ↔ Holds decode store path found := by
  unfold request
  constructor
  · intro h
    cases hread : store.read path with
    | error fault => simp [hread] at h
    | ok text =>
        cases hdecode : (Json.Source.parse? text).bind decode with
        | none => simp [hread, hdecode] at h
        | some value =>
            simp only [hread, hdecode, Except.ok.injEq] at h
            subst h
            obtain ⟨source, hparse, hsource⟩ := Option.bind_eq_some_iff.1 hdecode
            exact .intro hread hparse hsource
  · intro h
    obtain ⟨hcontent, hparses, hdecodes⟩ := h
    simp [hcontent, hparses, hdecodes]

/-- A command ends well exactly when its recipe is made and can be handed out. -/
theorem build_eq_ok {α : Type} {decode : Json.Source → Option α}
    {recipe : Settings → α → Except Refusal Recipe}
    {events : α → Except Refusal Recipe → List Logging.Event} {environment : Environment}
    {store : FileStore} {r : RecipeArguments} {success : Success} :
    (build decode recipe events environment store r).result = .ok success ↔
      ∃ built, Made decode recipe environment store r built ∧
        handOut store r.format r.output built.document = .ok success := by
  have hresult : (build decode recipe events environment store r).result
      = (settings environment store r.config >>= fun s =>
          request decode store r.input >>= fun found =>
            (recipe s found).mapError Fault.refused >>= fun built =>
              handOut store r.format r.output built.document) := by
    simp only [build, Traced.result_bind]
    rfl
  rw [hresult]
  constructor
  · intro h
    obtain ⟨s, hs, h⟩ := bind_eq_ok.1 h
    obtain ⟨found, hfound, h⟩ := bind_eq_ok.1 h
    obtain ⟨built, hbuilt, hout⟩ := bind_eq_ok.1 h
    obtain ⟨base, hbase, hvalid, rfl⟩ := Settings.load_eq_ok.1 (settings_eq_ok.1 hs)
    have hbuilds := mapError_eq_ok.1 hbuilt
    exact ⟨built, .intro hbase hvalid (request_eq_ok.1 hfound) hbuilds, hout⟩
  · intro h
    obtain ⟨built, hmade, hout⟩ := h
    obtain ⟨hbase, hvalid, hrequest, hbuilds⟩ := hmade
    have hs := settings_eq_ok.2 (Settings.load_eq_ok.2 ⟨_, hbase, hvalid, rfl⟩)
    refine bind_eq_ok.2 ⟨_, hs, bind_eq_ok.2 ⟨_, request_eq_ok.2 hrequest, ?_⟩⟩
    exact bind_eq_ok.2 ⟨built, mapError_eq_ok.2 hbuilds, hout⟩

/-! ## Handing out -/

variable {environment : Environment} {store : FileStore}

/-- A document that is handed out to a file is written there, and nothing is shown. -/
theorem write_of_handOut_eq_ok {format : OutputFormat} {path : String} {d : Document}
    {success : Success} (h : handOut store format (some path) d = .ok success) :
    store.write path (format.render d) = .ok success.store ∧ success.display = "" := by
  rw [handOut] at h
  cases hwrite : store.write path (format.render d) with
  | error fault => simp [hwrite] at h
  | ok next =>
      simp only [hwrite, Except.ok.injEq] at h
      subst h
      exact ⟨rfl, rfl⟩

/-- A document can be handed out exactly when its file, if it has one, can be written. -/
theorem exists_handOut_eq_ok {format : OutputFormat} {path : Option String} {d : Document} :
    (∃ success, handOut store format path d = .ok success) ↔ store.Takes path := by
  cases path with
  | none => simp [handOut, FileStore.Takes]
  | some path =>
      have htakes : store.Takes (some path) ↔ store.writeFault? path = none := by
        simp [FileStore.Takes]
      rw [htakes, ← FileStore.exists_write_eq_ok store path (format.render d), handOut]
      cases store.write path (format.render d) <;> simp

/-- The end of a command that could hand its recipe out: the file of the output holds the text of
the recipe and no other file has changed, or there is no such file and the text is for the
terminal. -/
structure Leaves (store : FileStore) (r : RecipeArguments) (recipe : Recipe) (outcome : Outcome) :
    Prop where
  exit : outcome.exitCode = 0
  terminal : r.output = none →
    outcome.display = r.format.display recipe.document ∧ outcome.store = store
  file : ∀ path, r.output = some path →
    outcome.display = "" ∧ outcome.store.read path = .ok (r.format.render recipe.document)
  others : ∀ other, (∀ path, r.output = some path → Path.ofText other ≠ Path.ofText path) →
    outcome.store.get? other = store.get? other
  directories : outcome.store.directories = store.directories

theorem leaves_of_handOut_eq_ok {r : RecipeArguments} {recipe : Recipe} {success : Success}
    (h : handOut store r.format r.output recipe.document = .ok success) (lines : List String) :
    Leaves store r recipe ⟨0, success.display, lines, success.store⟩ := by
  cases houtput : r.output with
  | none =>
      rw [houtput, handOut, Except.ok.injEq] at h
      subst h
      exact {
        exit := rfl
        terminal := fun _ => ⟨rfl, rfl⟩
        file := fun path hpath => by simp [houtput] at hpath
        others := fun _ _ => rfl
        directories := rfl }
  | some path =>
      rw [houtput] at h
      obtain ⟨hwrite, hdisplay⟩ := write_of_handOut_eq_ok h
      exact {
        exit := rfl
        terminal := fun hnone => by simp [houtput] at hnone
        file := fun p hp => by
          rw [houtput, Option.some.injEq] at hp
          subst hp
          exact ⟨hdisplay, FileStore.read_write hwrite⟩
        others := fun other hother => FileStore.get?_write_of_ne hwrite (hother path houtput)
        directories := FileStore.directories_write hwrite }

/-! ## Whole commands -/

/-- The command builds a recipe, from these arguments. -/
inductive AsksFor (r : RecipeArguments) : Command → Prop
  | stage : AsksFor r (.stage r)
  | run : AsksFor r (.run r)

theorem perform_eq_ok {command : Command} {r : RecipeArguments} (asks : AsksFor r command)
    {success : Success} :
    (perform environment store command).result = .ok success ↔
      ∃ recipe, Due environment store command recipe ∧
        handOut store r.format r.output recipe.document = .ok success := by
  cases asks with
  | stage => exact build_eq_ok
  | run => exact build_eq_ok

theorem carryOut_of_ok {a : Arguments} {success : Success}
    (h : (perform environment store a.command).result = .ok success) :
    ∃ lines, carryOut environment store a = ⟨0, success.display, lines, success.store⟩ := by
  unfold carryOut
  simp only [h]
  exact ⟨_, rfl⟩

theorem carryOut_of_error {a : Arguments} {fault : Fault}
    (h : (perform environment store a.command).result = .error fault) :
    ∃ lines, carryOut environment store a = ⟨1, "", lines, store⟩ := by
  unfold carryOut
  simp only [h]
  exact ⟨_, rfl⟩

/-- **The output file is written on success only.** A command that builds a recipe ends with 0
exactly when its settings can be read and are valid under the environment, its request can be read
and gives a recipe, and the output can be written. Then the output has the text of the recipe and
all other files are as they were. In every other case it ends with 1, and all files are as they
were. -/
theorem carryOut_writes_once (environment : Environment) (store : FileStore) (a : Arguments)
    (r : RecipeArguments) (asks : AsksFor r a.command) :
    ((carryOut environment store a).exitCode = 0 ↔
      (∃ recipe, Due environment store a.command recipe) ∧ store.Takes r.output) ∧
    (∀ recipe, Due environment store a.command recipe → store.Takes r.output →
      Leaves store r recipe (carryOut environment store a)) ∧
    ((carryOut environment store a).exitCode ≠ 0 →
      (carryOut environment store a).exitCode = 1 ∧
        (carryOut environment store a).store = store) := by
  have hsucceeds : ∀ recipe, Due environment store a.command recipe → store.Takes r.output →
      Leaves store r recipe (carryOut environment store a) := by
    intro recipe hdue htakes
    obtain ⟨success, hout⟩ := exists_handOut_eq_ok.2 htakes
    obtain ⟨lines, hend⟩ := carryOut_of_ok ((perform_eq_ok asks).2 ⟨recipe, hdue, hout⟩)
    rw [hend]
    exact leaves_of_handOut_eq_ok hout lines
  cases hresult : (perform environment store a.command).result with
  | ok success =>
      obtain ⟨recipe, hdue, hout⟩ := (perform_eq_ok asks).1 hresult
      have htakes : store.Takes r.output := exists_handOut_eq_ok.1 ⟨success, hout⟩
      have hexit := (hsucceeds recipe hdue htakes).exit
      exact ⟨⟨fun _ => ⟨⟨recipe, hdue⟩, htakes⟩, fun _ => hexit⟩, hsucceeds,
        fun hne => absurd hexit hne⟩
  | error fault =>
      obtain ⟨lines, hend⟩ := carryOut_of_error hresult
      have hone : (carryOut environment store a).exitCode = 1 := by rw [hend]
      have hstore : (carryOut environment store a).store = store := by rw [hend]
      refine ⟨⟨fun hzero => ?_, fun h => ?_⟩, hsucceeds, fun _ => ⟨hone, hstore⟩⟩
      · rw [hone] at hzero
        exact absurd hzero Nat.one_ne_zero
      · obtain ⟨⟨recipe, hdue⟩, htakes⟩ := h
        exact (hsucceeds recipe hdue htakes).exit

/-- A store with settings and with a request to run a task, whose fields stand in their order. -/
def taskStore : FileStore :=
  .ofList [
    ("recipe.yaml", "? lifecycle_bundles\n: ? buildpack/cflinuxfs4\n  : lifecycle.tgz\n"),
    ("request.json",
      "[\"task\",[\"task\",\"migrate\"],\"web\",null,256,512,-1,"
        ++ "[\"buildpack\",\x7b\"stack\":\"cflinuxfs4\"\x7d],"
        ++ "[\"droplet\",null,\x7b\x7d,\"https://store/droplet\"],null,[],null,"
        ++ "[\"app\",\"app\",[\"space\",\"dev\"],[\"org\",\"org\"]]]")]

/-- Arguments whose recipe takes the place of its request. -/
def inPlace : RecipeArguments := ⟨some "recipe.yaml", "./request.json", .json, some "request.json"⟩

/-- An environment that allows no time for staging. -/
def hastyEnvironment : Environment := fun name =>
  if name = "RECIPE_STAGING_TIMEOUT" then some "0" else none

/-- A recipe takes the place of its request, unless the environment spoils the settings. -/
theorem carryOut_writes_once_in_place :
    (∃ recipe, Due (fun _ => none) taskStore (.run inPlace) recipe ∧
      (carryOut (fun _ => none) taskStore ⟨.run inPlace, none, false, false⟩).store.read
        "request.json" = .ok (OutputFormat.json.render recipe.document)) ∧
    (carryOut hastyEnvironment taskStore ⟨.run inPlace, none, false, false⟩).exitCode = 1 ∧
    (carryOut hastyEnvironment taskStore ⟨.run inPlace, none, false, false⟩).store = taskStore := by
  have hzero :
      (carryOut (fun _ => none) taskStore ⟨.run inPlace, none, false, false⟩).exitCode = 0 := by
    decide +kernel
  have hone :
      (carryOut hastyEnvironment taskStore ⟨.run inPlace, none, false, false⟩).exitCode ≠ 0 := by
    decide +kernel
  obtain ⟨hexit, hleaves, -⟩ :=
    carryOut_writes_once (fun _ => none) taskStore ⟨.run inPlace, none, false, false⟩ inPlace .run
  obtain ⟨-, -, hkeeps⟩ :=
    carryOut_writes_once hastyEnvironment taskStore ⟨.run inPlace, none, false, false⟩ inPlace .run
  obtain ⟨⟨recipe, hdue⟩, htakes⟩ := hexit.1 hzero
  obtain ⟨-, hread⟩ := (hleaves recipe hdue htakes).file "request.json" rfl
  obtain ⟨hfails, hstore⟩ := hkeeps hone
  exact ⟨⟨recipe, hdue, hread⟩, hfails, hstore⟩

end Program

end CellRecipe
