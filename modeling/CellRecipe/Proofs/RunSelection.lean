import CellRecipe.Proofs.Conditions

/-!
# One droplet for each recipe to run

A request to run may hold two droplets, its own and that of a revision, and as many as three places
where a command may stand. One droplet is selected, and everything that a recipe takes from a
droplet is taken from that one: where it is fetched from and under which checksum, the metadata for
its launcher, and the image and the credentials that were recorded for it. The other droplet could
be any other, and the recipe or the refusal would be the same.

## Main definitions

* `RunRequest.Selects`: the droplet and the command that a request runs.
* `Droplet.loginOver`: the credentials for a droplet, recorded or else those of the request.
* `Launch.Brings`: how a droplet reaches its launcher.
* `Recipe.Launches`: everything in a recipe is taken from one droplet and one command.

## Main results

* `Recipe.ofRun_eq_of_selected_eq`: a recipe depends on its droplets by what is selected alone.
* `Recipe.ofRun_of_one_droplet`: a recipe never mixes two droplets.
-/

namespace CellRecipe

open Outcome

/-! ## What is selected -/

namespace RunRequest

/-- The first text that is there, or the empty text. -/
def firstOf : List (Option String) → String
  | [] => ""
  | some found :: _ => found
  | none :: rest => firstOf rest

/-- The droplet and the command that a request runs. A revision counts where revisions are enabled
and one is given. The command of the request goes before those of the revision for a task, and is
not looked at for a process. -/
inductive Selects (request : RunRequest) : Droplet → String → Prop
  | task {v : Revision} {name : String} (unit : request.unit = .task name)
      (enabled : request.workload.revisionsEnabled = true) (given : request.revision = some v) :
      Selects request v.droplet (firstOf [request.command,
        v.commands.get? request.processType, v.droplet.processTypes.get? request.processType])
  | process {v : Revision} {ports : List UInt32} {instances : UInt32}
      (unit : request.unit = .process ports instances)
      (enabled : request.workload.revisionsEnabled = true) (given : request.revision = some v) :
      Selects request v.droplet (firstOf [
        v.commands.get? request.processType, v.droplet.processTypes.get? request.processType])
  | own (disregarded : request.workload.revisionsEnabled = false ∨ request.revision = none) :
      Selects request request.droplet (firstOf [request.command,
        request.droplet.processTypes.get? request.processType])

theorem revisionInForce_eq_some {request : RunRequest} {v : Revision} :
    request.revisionInForce = some v
      ↔ request.workload.revisionsEnabled = true ∧ request.revision = some v := by
  unfold revisionInForce
  cases request.workload.revisionsEnabled <;> simp

theorem revisionInForce_eq_none {request : RunRequest} :
    request.revisionInForce = none
      ↔ request.workload.revisionsEnabled = false ∨ request.revision = none := by
  unfold revisionInForce
  cases request.workload.revisionsEnabled <;> simp

theorem firstOf_pair (a b : Option String) : (a <|> b).getD "" = firstOf [a, b] := by
  cases a <;> cases b <;> rfl

theorem firstOf_triple (a b c : Option String) : (a <|> b <|> c).getD "" = firstOf [a, b, c] := by
  cases a with
  | some found => rfl
  | none => exact firstOf_pair b c

theorem taskCommand_of_task {request : RunRequest} {name : String}
    (unit : request.unit = .task name) : request.taskCommand = request.command := by
  rw [taskCommand, unit]

theorem taskCommand_of_process {request : RunRequest} {ports : List UInt32} {instances : UInt32}
    (unit : request.unit = .process ports instances) : request.taskCommand = none := by
  rw [taskCommand, unit]

theorem selects_selected (request : RunRequest) :
    request.Selects request.selected.1 request.selected.2 := by
  unfold selected
  cases hv : request.revisionInForce with
  | none =>
      show request.Selects request.droplet
        ((request.command <|> request.droplet.processTypes.get? request.processType).getD "")
      rw [firstOf_pair]
      exact .own (revisionInForce_eq_none.1 hv)
  | some v =>
      obtain ⟨enabled, given⟩ := revisionInForce_eq_some.1 hv
      show request.Selects v.droplet ((request.taskCommand <|> v.commands.get? request.processType
        <|> v.droplet.processTypes.get? request.processType).getD "")
      rw [firstOf_triple]
      cases hunit : request.unit with
      | task name =>
          rw [taskCommand_of_task hunit]
          exact .task hunit enabled given
      | process ports instances =>
          rw [taskCommand_of_process hunit]
          exact .process hunit enabled given

/-- Where revisions are disabled, none is looked at. -/
theorem selected_of_disabled {request : RunRequest}
    (disabled : request.workload.revisionsEnabled = false) (v : Option Revision) :
    { request with revision := v }.selected = request.selected := by
  have hnone : ∀ w, { request with revision := w }.revisionInForce = none :=
    fun w => revisionInForce_eq_none.2 (.inl disabled)
  have hself : request.revisionInForce = none := hnone request.revision
  unfold selected
  rw [hnone v, hself]

/-- Where a revision is in force, the droplet of the request is not looked at. -/
theorem selected_of_revision {request : RunRequest} {v : Revision}
    (hv : request.revisionInForce = some v) (d : Droplet) :
    { request with droplet := d }.selected = request.selected := by
  have hv' : { request with droplet := d }.revisionInForce = some v := hv
  unfold selected
  rw [hv, hv']
  rfl

/-- Where a revision is in force, the command of a process is not looked at. -/
theorem selected_of_revision_process {request : RunRequest} {v : Revision}
    (hv : request.revisionInForce = some v) {ports : List UInt32} {instances : UInt32}
    (process : request.unit = .process ports instances) (d : Droplet) (command : Option String) :
    { request with droplet := d, command := command }.selected = request.selected := by
  have hv' : { request with droplet := d, command := command }.revisionInForce = some v := hv
  have hcommand : { request with droplet := d, command := command }.taskCommand = none :=
    taskCommand_of_process process
  unfold selected
  rw [hv, hv', taskCommand_of_process process, hcommand]

end RunRequest

/-! ## How a droplet is brought -/

/-- The layers that belong to one container alone. -/
def ImageLayer.exclusive (layers : List ImageLayer) : List ImageLayer :=
  layers.filter fun layer => layer.sharing == .exclusive

/-- A bundle is shared with others, in a layer or as a dependency. -/
theorem Plan.exclusive_bundled (settings : Settings) (b : Bundle) (bundle : String) (p : Plan) :
    ImageLayer.exclusive (p.bundled settings b bundle).imageLayers
      = ImageLayer.exclusive p.imageLayers := by
  unfold bundled ImageLayer.exclusive
  cases settings.declarativeAssets with
  | true =>
      show List.filter _ (p.imageLayers ++ [_]) = _
      rw [List.filter_append]
      exact List.append_nil _
  | false => rfl

/-- The credentials for a droplet from an image: those recorded for it, or else those of the
request. -/
def Droplet.loginOver (d : Droplet) (credentials : Option ImageCredentials) :
    Option ImageCredentials :=
  match d.receiptCredentials with
  | some recorded => some recorded
  | none => credentials

namespace Launch

/-- How a droplet reaches its launcher: what the container does, and the layers of its own. A built
droplet is fetched first, or is such a layer where assets are declared and its checksum is known. A
droplet from an image is the root filesystem, and nothing else is brought. -/
inductive Brings (settings : Settings) (l : Lifecycle) (d : Droplet) (run : Run) :
    Action → List ImageLayer → Prop
  | fetched (built : l.Built) (fetch : settings.declarativeAssets = false ∨ d.sha256 = none)
      (download : Download) (source : d.downloadUrl = some download.source)
      (checksum : download.checksumValue = d.sha256)
      (algorithm : download.checksumAlgorithm = d.sha256.map fun _ => "sha256") :
      Brings settings l d run (.serial [.download download, .run run]) []
  | layered (built : l.Built) (declared : settings.declarativeAssets = true) (layer : ImageLayer)
      (source : d.downloadUrl = some layer.url) (known : d.sha256.isSome)
      (checksum : layer.digestValue = d.sha256)
      (algorithm : layer.digestAlgorithm = some "SHA256") :
      Brings settings l d run (.run run) [layer]
  | root (image : ¬ l.Built) : Brings settings l d run (.run run) []

/-- The arguments of a launcher: the command, and what is known about the droplet. -/
def launcherArgs (l : Lifecycle) (d : Droplet) (command : String) : List String :=
  match l.kind with
  | .buildpack => ["app", command, d.executionMetadata]
  | .docker =>
    ["app", command, if d.executionMetadata = "" then "\x7b\x7d" else d.executionMetadata]
  | .cnb => ["--", command]

/-- The credentials for the image of a droplet. A built droplet needs none. -/
def credentialsOver (l : Lifecycle) (d : Droplet) : Option ImageCredentials :=
  match l with
  | .docker _ credentials => d.loginOver credentials
  | _ => none

/-- A plan starts a droplet with a command: it brings the droplet to its launcher, which gets the
command, and whatever else it has from a droplet is from this one. -/
structure Starts (settings : Settings) (l : Lifecycle) (d : Droplet) (command : String) (p : Plan) :
    Prop where
  brings : ∃ run, run.path = Container.launcherPath ∧ run.args = launcherArgs l d command ∧
    Brings settings l d run p.action (ImageLayer.exclusive p.imageLayers)
  credentials : p.imageCredentials = credentialsOver l d

variable {settings : Settings} {l : Lifecycle} {d : Droplet} {command : String}

/-- The bundle of a lifecycle adds nothing that could be taken from a droplet. -/
theorem Starts.of_withBundle {p q : Plan} (h : Starts settings l d command p) {b : Bundle}
    (hq : p.withBundle settings b = .ok q) : Starts settings l d command q := by
  obtain ⟨bundle, -, rfl⟩ := Plan.withBundle_eq_ok.1 hq
  obtain ⟨run, hpath, hargs, hbrings⟩ := h.brings
  refine ⟨⟨run, hpath, hargs, ?_⟩, ?_⟩
  · rw [Plan.action_bundled, Plan.exclusive_bundled]
    exact hbrings
  · rw [Plan.imageCredentials_bundled]
    exact h.credentials

/-- A built droplet is brought in one of two ways, and the settings and its checksum decide. -/
theorem brings_delivered (built : l.Built) {url : String} (known : d.downloadUrl = some url)
    (run : Run) :
    Brings settings l d run (delivered settings d url run).action
      (ImageLayer.exclusive (delivered settings d url run).imageLayers) := by
  by_cases fetch : settings.declarativeAssets = false ∨ d.sha256 = none
  · rw [delivered_of_fetch fetch]
    exact .fetched built fetch _ known rfl rfl
  · obtain ⟨hdeclared, hsha⟩ := not_or.1 fetch
    have declared : settings.declarativeAssets = true := Bool.not_eq_false _ ▸ hdeclared
    obtain ⟨sha256, hsha⟩ := Option.ne_none_iff_exists'.1 hsha
    rw [delivered_of_layer declared hsha]
    refine .layered built declared (dropletLayer url sha256) known ?_ ?_ rfl
    · rw [hsha]
      rfl
    · rw [hsha]
      rfl

theorem imageCredentials_delivered (settings : Settings) (d : Droplet) (url : String) (run : Run) :
    (delivered settings d url run).imageCredentials = none := by
  unfold delivered
  cases settings.declarativeAssets <;> cases d.sha256 <;> rfl

theorem credentialsOver_of_built (built : l.Built) : credentialsOver l d = none := by
  cases l with
  | buildpack stack asked => rfl
  | cnb stack asked credentials => rfl
  | docker asked credentials => exact absurd built (Lifecycle.not_built_docker asked credentials)

/-- A built droplet that is brought to a launcher is started by it. -/
theorem starts_of_onDroplet_eq_ok (built : l.Built) {run : Run}
    (hpath : run.path = Container.launcherPath) (hargs : run.args = launcherArgs l d command)
    {p : Plan} (hp : onDroplet settings d run = .ok p) : Starts settings l d command p := by
  obtain ⟨url, known, rfl⟩ := onDroplet_eq_ok.1 hp
  refine ⟨⟨run, hpath, hargs, brings_delivered built known run⟩, ?_⟩
  rw [imageCredentials_delivered, credentialsOver_of_built built]

/-- A droplet from an image is started by its launcher, and there is nothing to bring. -/
theorem starts_imageBase (settings : Settings) (request : RunRequest) (asked : Option String)
    (credentials : Option ImageCredentials) (d : Droplet) (command : String) :
    Starts settings (.docker asked credentials) d command
      (imageBase request credentials d command) := by
  refine ⟨⟨imageLauncher request d command, rfl, ?_, ?_⟩, ?_⟩
  · show ["app", command, metadataText d] = ["app", command, _]
    simp only [metadataText, String.isEmpty_iff]
  · exact .root (Lifecycle.not_built_docker asked credentials)
  · show (d.receiptCredentials <|> credentials) = d.loginOver credentials
    unfold Droplet.loginOver
    cases d.receiptCredentials <;> rfl

/-- Whatever the lifecycle, a plan starts the droplet that it is for. -/
theorem starts_of_plan_eq_ok {request : RunRequest} {p : Plan}
    (hp : plan settings l request d command = .ok p) : Starts settings l d command p := by
  cases l with
  | buildpack stack asked =>
      obtain ⟨q, hq, hbundle⟩ := bind_eq_ok.1 hp
      exact (starts_of_onDroplet_eq_ok (.inl rfl) rfl rfl hq).of_withBundle hbundle
  | cnb stack asked credentials =>
      obtain ⟨q, hq, hbundle⟩ := bind_eq_ok.1 hp
      exact (starts_of_onDroplet_eq_ok (.inr rfl) rfl rfl hq).of_withBundle hbundle
  | docker asked credentials =>
      exact (starts_imageBase settings request asked credentials d command).of_withBundle hp

end Launch

/-! ## The recipe -/

namespace Recipe

/-- Everything that a recipe has from a droplet is from `d`, and its launcher gets `command`. -/
structure Launches (settings : Settings) (request : RunRequest) (d : Droplet) (command : String)
    (recipe : Recipe) : Prop where
  brings : ∃ run, run.path = Container.launcherPath ∧
    run.args = Launch.launcherArgs request.lifecycle d command ∧
    Launch.Brings settings request.lifecycle d run recipe.action
      (ImageLayer.exclusive recipe.imageLayers)
  checksum : recipe.checksum = d.sha256.map fun value => ⟨"sha256", value⟩
  root : ∀ asked credentials, request.lifecycle = .docker asked credentials →
    ∃ image reference, d.imageOver asked = some image ∧
      ImageReference.parse image = .ok reference ∧ recipe.rootFs = reference.text
  username : recipe.imageUsername
    = (Launch.credentialsOver request.lifecycle d).map (·.username)
  password : recipe.imagePassword
    = (Launch.credentialsOver request.lifecycle d).map (·.password)

/-- A recipe launches what its request selects. -/
theorem launches_of_ofRun_eq_ok {settings : Settings} {request : RunRequest} {recipe : Recipe}
    (h : ofRun settings request = .ok recipe) :
    Launches settings request request.selected.1 request.selected.2 recipe := by
  obtain ⟨plan, root, rules, files, hplan, hroot, -, -, rfl⟩ := ofRun_eq_ok.1 h
  have hstarts := Launch.starts_of_plan_eq_ok hplan
  refine ⟨hstarts.brings, rfl, ?_, ?_, ?_⟩
  · intro asked credentials hl
    rw [hl] at hroot
    obtain ⟨image, reference, himage, hparse, htext⟩ := Launch.imageRootFs_eq_ok.1 hroot
    exact ⟨image, reference, himage, hparse, htext.symm⟩
  · show plan.imageCredentials.map _ = _
    rw [hstarts.credentials]
  · show plan.imageCredentials.map _ = _
    rw [hstarts.credentials]

/-- A recipe depends on the droplets and on the commands of its request by what is selected. -/
theorem ofRun_eq_of_selected_eq {settings : Settings} {request : RunRequest}
    {revision : Option Revision} {d : Droplet} {command : Option String}
    (h : { request with revision := revision, droplet := d, command := command }.selected
      = request.selected) :
    ofRun settings { request with revision := revision, droplet := d, command := command }
      = ofRun settings request := by
  unfold ofRun
  rw [h]
  rfl

/-- **A recipe never mixes two droplets.** Where revisions are disabled, the revision of a request
has no part in the answer. Where one is in force, the droplet of the request has no part in it, and
neither has the command of a process. Whatever a recipe has from a droplet, it has from the one that
is selected, and the launcher gets the command that belongs to it. -/
theorem ofRun_of_one_droplet (settings : Settings) (request : RunRequest) :
    (request.workload.revisionsEnabled = false →
      ∀ v, ofRun settings { request with revision := v } = ofRun settings request) ∧
    (request.workload.revisionsEnabled = true → ∀ v, request.revision = some v →
      (∀ d, ofRun settings { request with droplet := d } = ofRun settings request) ∧
      ∀ ports instances, request.unit = .process ports instances → ∀ d command,
        ofRun settings { request with droplet := d, command := command }
          = ofRun settings request) ∧
    ∀ recipe, ofRun settings request = .ok recipe →
      ∃ d command, request.Selects d command ∧ Launches settings request d command recipe := by
  refine ⟨?_, ?_, ?_⟩
  · intro disabled v
    exact ofRun_eq_of_selected_eq (RunRequest.selected_of_disabled disabled v)
  · intro enabled v given
    have hv := RunRequest.revisionInForce_eq_some.2 ⟨enabled, given⟩
    constructor
    · intro d
      exact ofRun_eq_of_selected_eq (RunRequest.selected_of_revision hv d)
    · intro ports instances process d command
      exact ofRun_eq_of_selected_eq
        (RunRequest.selected_of_revision_process hv process d command)
  · intro recipe h
    exact ⟨request.selected.1, request.selected.2, request.selects_selected,
      launches_of_ofRun_eq_ok h⟩

/-- The droplet of a past version, with all that can be recorded for an image. -/
def pastDroplet : Droplet where
  guid := "past"
  sha256 := some "aa"
  processTypes := Table.empty.insert "web" "serve --past"
  downloadUrl := none
  executionMetadata := "ports"
  receiptImage := some "team/app:v1"
  receiptCredentials := some ⟨"reader", "secret"⟩

/-- A request of an app that was rolled back: its own droplet is that of the present. -/
def rolledBack : RunRequest :=
  { (default : RunRequest) with
    unit := .process [8080] 1
    processType := "web"
    command := some "serve"
    lifecycle := .docker (some "team/app") none
    droplet := { pastDroplet with guid := "present", receiptImage := some "team/app:v2" }
    revision := some ⟨"before", pastDroplet, .empty⟩
    workload := { (default : Workload) with revisionsEnabled := true } }

/-- A task of the same app, with a command of its own. -/
def rolledBackTask : RunRequest :=
  { rolledBack with
    unit := .task "migrate"
    command := some "migrate --all"
    revision := some ⟨"before", pastDroplet, Table.empty.insert "web" "serve --before"⟩ }

/-- Settings with a bundle for images. -/
def imageSettings : Settings :=
  { Settings.standard with bundles := Table.empty.insert "docker" "docker.tgz" }

/-- An app that was rolled back, with its revision in force and with revisions disabled. Its task runs
the past droplet with the command of the request. -/
theorem ofRun_of_one_droplet_rolledBack :
    (let disabled := { rolledBack with workload := default }
    disabled.workload.revisionsEnabled = false ∧
      ofRun imageSettings { disabled with revision := none } = ofRun imageSettings disabled) ∧
    (rolledBack.workload.revisionsEnabled = true ∧
      ofRun imageSettings { rolledBack with droplet := default }
        = ofRun imageSettings rolledBack ∧
      ofRun imageSettings { rolledBack with droplet := default, command := none }
        = ofRun imageSettings rolledBack) ∧
    (∃ recipe, ofRun imageSettings rolledBack = .ok recipe ∧
      ∃ d command, rolledBack.Selects d command ∧
        Launches imageSettings rolledBack d command recipe) ∧
    ofRun imageSettings { rolledBackTask with droplet := default }
      = ofRun imageSettings rolledBackTask ∧
    ∃ recipe, ofRun imageSettings rolledBackTask = .ok recipe ∧
      Launches imageSettings rolledBackTask pastDroplet "migrate --all" recipe := by
  obtain ⟨-, hrevision, hlaunches⟩ := ofRun_of_one_droplet imageSettings rolledBack
  obtain ⟨hdroplet, hprocess⟩ := hrevision rfl _ rfl
  obtain ⟨-, htask, htaskLaunches⟩ := ofRun_of_one_droplet imageSettings rolledBackTask
  have hserved : ∃ recipe, ofRun imageSettings rolledBackTask = .ok recipe := ⟨_, rfl⟩
  obtain ⟨recipe, hserved⟩ := hserved
  have hmigrates : Launches imageSettings rolledBackTask pastDroplet "migrate --all" recipe := by
    obtain ⟨d, command, hselects, hlaunched⟩ := htaskLaunches recipe hserved
    cases hselects with
    | task unit enabled given =>
        cases given
        exact hlaunched
    | process unit enabled given => cases unit
    | own disregarded => rcases disregarded with h | h <;> cases h
  refine ⟨⟨rfl, ?_⟩, ⟨rfl, hdroplet default, hprocess _ _ rfl default none⟩,
    ⟨_, rfl, hlaunches _ rfl⟩, (htask rfl _ rfl).1 default, recipe, hserved, hmigrates⟩
  exact (ofRun_of_one_droplet imageSettings { rolledBack with workload := default }).1 rfl none

end Recipe

end CellRecipe
