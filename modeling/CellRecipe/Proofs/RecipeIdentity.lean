import CellRecipe.Proofs.AssetDelivery
import CellRecipe.Proofs.StagingWiring

/-!
# Identity, ports and kind

The scheduler learns of a workload in five places: as the source of logs, from the tags of metrics,
from the properties of the network, from the units of a certificate and from the tags of a
placement. Each is rendered on its own, into lists, tables and texts, and nothing compares them
later. Here it is proved that they agree: one workload stands behind all names of a recipe, the kind
that the network sees is the kind that the rest of the recipe is made for, and the ports that the
network sees are those of the recipe.

Ports are written twice, as numbers and as one text with commas. The text is read back by a reader
of its own, `Identity.ports?`, so that the two encodings are compared as numbers.

## Main definitions

* `Identity.ports?`: the numbers in a text of ports.
* `Recipe.NamedAfter`, `Recipe.OfKind`, `Recipe.Placed`: what the names of a recipe agree on.

## Main results

* `Identity.ports?_portsText`: the text of ports can be read back.
* `Launch.environment_of_plan_eq_ok`: a launcher gets the environment of its request.
* `Recipe.names_agree`: the names, the kind and the limits of all recipes.
-/

namespace CellRecipe

open Outcome

/-! ## Ports as a text -/

namespace Identity

/-- The numbers in a text of decimals with commas between them; an empty text has none. -/
def ports? (s : String) : Option (List Nat) :=
  if s.isEmpty then some [] else (Text.splitAll ',' s.toList).mapM Text.digits?

/-- The decimal digits of ports hold no comma. -/
theorem comma_not_mem_toDigits (n : Nat) : ',' ∉ Nat.toDigits 10 n := by
  intro h
  have hdigit := Text.isDigit_of_mem_toDigits h
  exact absurd hdigit (by decide)

theorem toList_portsText (ports : List UInt32) :
    (portsText ports).toList = [','].intercalate (ports.map fun p => Nat.toDigits 10 p.toNat) := by
  have hdigits : ∀ p : UInt32, (toString p.toNat).toList = Nat.toDigits 10 p.toNat :=
    fun p => Nat.toList_repr
  rw [portsText, String.toList_intercalate, List.map_map]
  congr 1
  exact List.map_congr_left fun p _ => hdigits p

/-- Numbers can be read from their digits, one by one. -/
theorem mapM_digits?_toDigits (ports : List UInt32) :
    (ports.map fun p => Nat.toDigits 10 p.toNat).mapM Text.digits?
      = some (ports.map UInt32.toNat) := by
  induction ports with
  | nil => rfl
  | cons p rest ih =>
      rw [List.map_cons, List.mapM_cons, Text.digits?_toDigits, ih]
      rfl

/-- The text of ports gives back the ports, and the empty text stands for none. -/
theorem ports?_portsText (ports : List UInt32) :
    ports? (portsText ports) = some (ports.map UInt32.toNat) := by
  cases ports with
  | nil => rfl
  | cons p rest =>
      have hparts : ((p :: rest).map fun q => Nat.toDigits 10 q.toNat) ≠ [] := by simp
      have hcomma : ∀ part ∈ (p :: rest).map (fun q => Nat.toDigits 10 q.toNat), ',' ∉ part := by
        intro part hpart
        obtain ⟨q, -, rfl⟩ := List.mem_map.1 hpart
        exact comma_not_mem_toDigits q.toNat
      have hsplit : Text.splitAll ',' (portsText (p :: rest)).toList
          = (p :: rest).map fun q => Nat.toDigits 10 q.toNat := by
        rw [toList_portsText, Text.splitAll_intercalate hparts hcomma]
      have hne : (portsText (p :: rest)).isEmpty = false := by
        -- An empty text would have one empty part, and no number is without digits.
        by_contra hempty
        have hnil : portsText (p :: rest) = "" := by simpa using hempty
        rw [hnil] at hsplit
        have hhead : ([] : List Char) = Nat.toDigits 10 p.toNat := (List.cons.inj hsplit).1
        exact Nat.toDigits_ne_nil hhead.symm
      rw [ports?, hne, hsplit]
      exact mapM_digits?_toDigits (p :: rest)

/-! ## The tables of names -/

theorem entries_metricTags (w : Workload) : (metricTags w).entries = [("app_id", w.guid),
    ("app_name", w.name), ("organization_id", w.organization.guid),
    ("organization_name", w.organization.name), ("source_id", w.guid), ("space_id", w.space.guid),
    ("space_name", w.space.name)] := by
  simp only [metricTags, Table.ofList, Table.insert, Table.empty, List.foldl_cons, List.foldl_nil,
    Table.insertEntry, String.reduceLT, reduceIte]

theorem entries_network (w : Workload) (ports : List UInt32) (kind : ContainerKind) :
    (network w ports kind).entries = [("app_id", w.guid), ("container_workload", kind.name),
      ("org_id", w.organization.guid), ("policy_group_id", w.guid), ("ports", portsText ports),
      ("space_id", w.space.guid)] := by
  simp only [network, Table.ofList, Table.insert, Table.empty, List.foldl_cons, List.foldl_nil,
    Table.insertEntry, String.reduceLT, reduceIte]

theorem get?_kind_network (w : Workload) (ports : List UInt32) (kind : ContainerKind) :
    (network w ports kind).get? "container_workload" = some kind.name := by
  simp [Table.get?, entries_network, Table.lookup_cons]

theorem get?_ports_network (w : Workload) (ports : List UInt32) (kind : ContainerKind) :
    (network w ports kind).get? "ports" = some (portsText ports) := by
  simp [Table.get?, entries_network, Table.lookup_cons]

/-! ## Placement -/

theorem length_placementTags_le (segment : Option String) :
    (placementTags segment).length ≤ 1 := by
  cases segment with
  | none => exact Nat.zero_le 1
  | some name => rw [placementTags]; split <;> simp

theorem mem_placementTags {segment : Option String} {tag : String} :
    tag ∈ placementTags segment ↔ segment = some tag ∧ tag ≠ "" := by
  cases segment with
  | none => simp [placementTags]
  | some name =>
      rw [placementTags, Option.some.injEq]
      split
      case isTrue h =>
        have hname : name = "" := by simpa using h
        constructor
        · intro hmem
          cases hmem
        · rintro ⟨rfl, hne⟩
          exact absurd hname hne
      case isFalse h =>
        have hname : name ≠ "" := by simpa using h
        rw [List.mem_singleton]
        constructor
        · rintro rfl
          exact ⟨rfl, hname⟩
        · rintro ⟨rfl, -⟩
          rfl

end Identity

/-! ## Names -/

namespace Recipe

open Identity

/-- All names of the recipe are those of one workload, of its space and of its organization, and
there are no others. -/
structure NamedAfter (w : Workload) (recipe : Recipe) : Prop where
  log : recipe.logGuid = w.guid
  tags : recipe.metricTags.entries.map Prod.fst = ["app_id", "app_name", "organization_id",
    "organization_name", "source_id", "space_id", "space_name"]
  properties : recipe.network.entries.map Prod.fst = ["app_id", "container_workload", "org_id",
    "policy_group_id", "ports", "space_id"]
  sourceTag : recipe.metricTag "source_id" = some w.guid
  appTag : recipe.metricTag "app_id" = some w.guid
  appProperty : recipe.network.get? "app_id" = some w.guid
  policyProperty : recipe.network.get? "policy_group_id" = some w.guid
  spaceTag : recipe.metricTag "space_id" = some w.space.guid
  spaceProperty : recipe.network.get? "space_id" = some w.space.guid
  organizationTag : recipe.metricTag "organization_id" = some w.organization.guid
  organizationProperty : recipe.network.get? "org_id" = some w.organization.guid
  units : recipe.organizationalUnit
    = ["organization:" ++ w.organization.guid, "space:" ++ w.space.guid, "app:" ++ w.guid]

/-- The recipe is made for one kind of container in all its parts, and the ports that the network
sees are its own. -/
structure OfKind (kind : ContainerKind) (recipe : Recipe) : Prop where
  property : recipe.network.get? "container_workload" = some (match kind with
    | .staging => "staging"
    | .task => "task"
    | .app => "app")
  callback : recipe.callbackUrl = none ↔ kind = .app
  instances : recipe.instances.isSome = true ↔ kind = .app
  noPorts : kind ≠ .app → recipe.ports = []
  result : recipe.resultFile ≠ "" ↔ kind = .staging
  ports : ∃ text, recipe.network.get? "ports" = some text ∧
    ports? text = some (recipe.ports.map UInt32.toNat)

/-- The recipe is placed by the isolation segment, if this has a name. -/
structure Placed (segment : Option String) (recipe : Recipe) : Prop where
  atMostOne : recipe.placementTags.length ≤ 1
  named : ∀ tag, tag ∈ recipe.placementTags ↔ segment = some tag ∧ tag ≠ ""

/-- A recipe whose names are those of the helpers for a workload is named after it. -/
theorem namedAfter_of_eq {w : Workload} {recipe : Recipe} {ports : List UInt32}
    {kind : ContainerKind} (log : recipe.logGuid = w.guid)
    (tags : recipe.metricTags = Identity.metricTags w)
    (network : recipe.network = Identity.network w ports kind)
    (units : recipe.organizationalUnit = Identity.organizationalUnit w) : NamedAfter w recipe := by
  constructor
  case log => exact log
  case units => exact units
  case tags =>
    rw [tags, entries_metricTags]
    rfl
  case properties =>
    rw [network, entries_network]
    rfl
  case appProperty | policyProperty | spaceProperty | organizationProperty =>
    rw [network, Table.get?, entries_network]
    simp [Table.lookup_cons]
  case sourceTag | appTag | spaceTag | organizationTag =>
    rw [metricTag, tags, Table.get?, entries_metricTags]
    simp [Table.lookup_cons]

theorem placed_of_eq {segment : Option String} {recipe : Recipe}
    (h : recipe.placementTags = Identity.placementTags segment) : Placed segment recipe := by
  constructor
  · rw [h]
    exact length_placementTags_le segment
  · intro tag
    rw [h]
    exact mem_placementTags

end Recipe

/-! ## What a launcher gets -/

namespace Launch

variable {settings : Settings} {request : RunRequest} {l : Lifecycle} {d : Droplet}
  {command : String} {p : Plan}

/-- A plan has one run, with the given environment, and adds nothing to that of its container. -/
structure RunsWith (environment : List EnvironmentVariable) (p : Plan) : Prop where
  container : p.environment = []
  run : ∃ run, p.action.runs = [run] ∧ run.env = environment

theorem RunsWith.bundled {environment : List EnvironmentVariable} (h : RunsWith environment p)
    (settings : Settings) (b : Bundle) (bundle : String) :
    RunsWith environment (p.bundled settings b bundle) := by
  refine ⟨?_, ?_⟩
  · rw [Plan.environment_bundled]
    exact h.container
  · rw [Plan.action_bundled]
    exact h.run

theorem runsWith_delivered (settings : Settings) (d : Droplet) (url : String) (run : Run) :
    RunsWith run.env (delivered settings d url run) := by
  unfold delivered
  cases settings.declarativeAssets <;> cases d.sha256 <;> exact ⟨rfl, run, rfl, rfl⟩

theorem runsWith_of_onDroplet_eq_ok {run : Run} {b : Bundle}
    (h : (onDroplet settings d run >>= fun q => q.withBundle settings b) = .ok p) :
    RunsWith run.env p := by
  obtain ⟨q, hq, hbundle⟩ := bind_eq_ok.1 h
  obtain ⟨url, -, rfl⟩ := onDroplet_eq_ok.1 hq
  obtain ⟨bundle, -, rfl⟩ := Plan.withBundle_eq_ok.1 hbundle
  exact (runsWith_delivered settings d url run).bundled settings b bundle

/-- Whatever the lifecycle, the launcher gets the environment of the request. -/
theorem runsWith_of_plan_eq_ok (h : plan settings l request d command = .ok p) :
    RunsWith request.environment p := by
  cases l with
  | buildpack stack asked => exact runsWith_of_onDroplet_eq_ok h
  | docker image credentials =>
      obtain ⟨bundle, -, rfl⟩ := Plan.withBundle_eq_ok.1 h
      have hbase : RunsWith request.environment (imageBase request credentials d command) :=
        ⟨rfl, imageLauncher request d command, rfl, rfl⟩
      exact hbase.bundled settings _ bundle
  | cnb stack asked credentials => exact runsWith_of_onDroplet_eq_ok h

end Launch

/-! ## Recipes -/

/-- The kind of container in which a unit runs. -/
def RunUnit.kind : RunUnit → Identity.ContainerKind
  | .task _ => .task
  | .process _ _ => .app

namespace Recipe

open Identity

variable {settings : Settings} {recipe : Recipe}

/-- The recipe has the memory, the disk and the log rate that were asked for. -/
structure Limited (memoryMb diskMb : UInt64) (logBytesPerSecond : Int64) (recipe : Recipe) :
    Prop where
  memory : recipe.memoryMb = memoryMb
  disk : recipe.diskMb = diskMb
  log : recipe.logBytesPerSecond = logBytesPerSecond

/-- What a recipe to stage owes to its request. -/
structure StagesAs (request : StagingRequest) (recipe : Recipe) : Prop where
  named : NamedAfter request.workload recipe
  kind : OfKind .staging recipe
  placed : Placed request.isolationSegment recipe
  limited : Limited request.memoryMb request.diskMb request.logBytesPerSecond recipe

/-- What a recipe to run owes to its request. -/
structure RunsAs (request : RunRequest) (recipe : Recipe) : Prop where
  named : NamedAfter request.workload recipe
  kind : OfKind request.unit.kind recipe
  placed : Placed request.isolationSegment recipe
  limited : Limited request.memoryMb request.diskMb request.logBytesPerSecond recipe
  process : ∀ ports instances, request.unit = .process ports instances →
    recipe.ports = ports ∧ recipe.instances = some instances
  environment : recipe.environment = request.environment
  launcher : ∃ run, recipe.action.runs = [run] ∧ run.env = request.environment

theorem stagesAs_of_ofStaging_eq_ok {request : StagingRequest}
    (h : ofStaging settings request = .ok recipe) : StagesAs request recipe := by
  obtain ⟨plan, rules, files, -, -, -, rfl⟩ := ofStaging_eq_ok.1 h
  refine ⟨namedAfter_of_eq rfl rfl rfl rfl, ?_, placed_of_eq rfl, ⟨rfl, rfl, rfl⟩⟩
  exact {
    property := get?_kind_network request.workload [] .staging
    callback := by simp [staged]
    instances := by simp [staged]
    noPorts := fun _ => rfl
    result := by simp [staged, Container.resultFile]
    ports := ⟨portsText [], get?_ports_network request.workload [] .staging, rfl⟩ }

/-- The unit of a request decides the kind of its recipe. -/
theorem ofKind_launched (settings : Settings) (request : RunRequest) (d : Droplet) (plan : Plan)
    (root : String) (rules : List EgressRule) (files : List MountedFile) :
    OfKind request.unit.kind (launched settings request d plan root rules files) := by
  have hports : ∃ text,
      (launched settings request d plan root rules files).network.get? "ports" = some text ∧
      ports? text
        = some ((launched settings request d plan root rules files).ports.map UInt32.toNat) :=
    ⟨portsText (unitPart settings request).ports, get?_ports_network _ _ _, ports?_portsText _⟩
  have hresult : (launched settings request d plan root rules files).resultFile = "" := rfl
  cases hunit : request.unit with
  | task name =>
      have hpart : unitPart settings request
          = ⟨.task, some (taskCallback settings request.guid), [], none⟩ := by
        simp [unitPart, hunit]
      exact {
        property := by simp only [launched, hpart]; exact get?_kind_network _ _ _
        callback := by simp [launched, hpart, RunUnit.kind]
        instances := by simp [launched, hpart, RunUnit.kind]
        noPorts := fun _ => by simp [launched, hpart]
        result := by simp [hresult, RunUnit.kind]
        ports := hports }
  | process ports instances =>
      have hpart : unitPart settings request = ⟨.app, none, ports, some instances⟩ := by
        simp [unitPart, hunit]
      exact {
        property := by simp only [launched, hpart]; exact get?_kind_network _ _ _
        callback := by simp [launched, hpart, RunUnit.kind]
        instances := by simp [launched, hpart, RunUnit.kind]
        noPorts := fun h => absurd rfl h
        result := by simp [hresult, RunUnit.kind]
        ports := hports }

theorem runsAs_of_ofRun_eq_ok {request : RunRequest} (h : ofRun settings request = .ok recipe) :
    RunsAs request recipe := by
  obtain ⟨plan, root, rules, files, hplan, -, -, -, rfl⟩ := ofRun_eq_ok.1 h
  have hruns := Launch.runsWith_of_plan_eq_ok hplan
  exact {
    named := namedAfter_of_eq rfl rfl rfl rfl
    kind := ofKind_launched settings request _ plan root rules files
    placed := placed_of_eq rfl
    limited := ⟨rfl, rfl, rfl⟩
    process := by
      intro ports instances hunit
      simp [launched, unitPart, hunit]
    environment := by simp [launched, hruns.container]
    launcher := hruns.run }

/-- **Identity, ports and kind agree.** All names in a recipe are those of its workload, of the
space and of the organization, and the metrics and the network have no others. The kind that the
network sees decides whether the end is reported, whether there are instances and ports and whether
a result is expected, and the ports that the network sees are those of the recipe. A recipe is
placed by at most one tag, which has a name, and its limits are the ones that were asked for. What
runs gets the environment of its request, in the container as in the launcher. -/
theorem names_agree (settings : Settings) :
    (∀ request recipe, ofStaging settings request = .ok recipe → StagesAs request recipe) ∧
    ∀ request recipe, ofRun settings request = .ok recipe → RunsAs request recipe :=
  ⟨fun _ _ => stagesAs_of_ofStaging_eq_ok, fun _ _ => runsAs_of_ofRun_eq_ok⟩

/-- A request for a process that listens on two ports, may log without limit and names no place. -/
def listeningRun : RunRequest :=
  { checkedRun with
    unit := .process [8080, 9090] 2
    logBytesPerSecond := -1
    environment := [⟨"RACK_ENV", "production"⟩]
    isolationSegment := some "" }

/-- The same app with a task instead of its process. -/
def migratingRun : RunRequest := { listeningRun with unit := .task "migrate" }

/-- A process is announced with both its ports, a task and staging with none, and each of them under
its own kind. -/
theorem names_agree_listening :
    (∃ recipe, ofRun stackSettings listeningRun = .ok recipe ∧
      RunsAs listeningRun recipe ∧ recipe.network.get? "container_workload" = some "app" ∧
      recipe.network.get? "ports" = some "8080,9090" ∧
      ports? "8080,9090" = some [8080, 9090] ∧ recipe.logBytesPerSecond = -1 ∧
      recipe.placementTags = []) ∧
    (∃ recipe, ofRun stackSettings migratingRun = .ok recipe ∧
      RunsAs migratingRun recipe ∧ recipe.network.get? "container_workload" = some "task" ∧
      recipe.ports = [] ∧ recipe.instances = none) ∧
    ∃ recipe, ofStaging buildpackSettings wiredRequest = .ok recipe ∧
      StagesAs wiredRequest recipe ∧
      recipe.network.get? "container_workload" = some "staging" := by
  have hprocess : ∃ recipe, ofRun stackSettings listeningRun = .ok recipe := ⟨_, rfl⟩
  have htask : ∃ recipe, ofRun stackSettings migratingRun = .ok recipe := ⟨_, rfl⟩
  have hstaged : ∃ recipe, ofStaging buildpackSettings wiredRequest = .ok recipe := ⟨_, rfl⟩
  obtain ⟨process, hprocess⟩ := hprocess
  obtain ⟨task, htask⟩ := htask
  obtain ⟨staged, hstaged⟩ := hstaged
  have hruns := (names_agree stackSettings).2 _ _ hprocess
  have hmigrates := (names_agree stackSettings).2 _ _ htask
  have hstages := (names_agree buildpackSettings).1 _ _ hstaged
  have hports : ports? "8080,9090" = some [8080, 9090] := by decide +kernel
  have hnetwork : process.network.get? "ports" = some "8080,9090" := by
    cases hprocess
    decide +kernel
  have hplace : process.placementTags = [] := by
    refine List.eq_nil_iff_forall_not_mem.2 fun tag hmem => ?_
    obtain ⟨hsegment, hne⟩ := (hruns.placed.named tag).1 hmem
    exact hne (Option.some.inj hsegment).symm
  have hinstances : task.instances = none := by
    have happ := mt hmigrates.kind.instances.1 (by decide)
    rwa [Option.not_isSome_iff_eq_none] at happ
  exact ⟨⟨process, hprocess, hruns, hruns.kind.property, hnetwork, hports, hruns.limited.log,
      hplace⟩,
    ⟨task, htask, hmigrates, hmigrates.kind.property, hmigrates.kind.noPorts (by decide),
      hinstances⟩,
    staged, hstaged, hstages, hstages.kind.property⟩

end Recipe

end CellRecipe
