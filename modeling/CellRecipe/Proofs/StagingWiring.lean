import CellRecipe.Proofs.ActionLeaves
import CellRecipe.Proofs.BuilderArguments
import CellRecipe.Proofs.Conditions

/-!
# The wiring of staging

To stage a package its parts are fetched side by side, the builder runs, and what it leaves behind
is handed in. The steps meet in the container: the builder has to look for the package where the
download puts it, and an upload has to take the droplet from where the builder leaves it. A location
of the request comes to its step by way of the message, under a name of its own at every stage.

The steps of a pipeline are given a name here (`Steps`), so that it can be said of each where it
gets its location from and which argument of the builder names its path. The shape of the tree is
then an equation, and all that is in the tree can be read off from its leaves.

## Main definitions

* `Staging.Below`: a path stands right below a directory.
* `Staging.Steps`: what a pipeline does, with `Steps.tree` as its action.
* `Staging.Steps.Located`: the steps work with the locations of a request.
* `Staging.Steps.Agree`: the arguments of the builder name the paths of the steps.

## Main results

* `Staging.Steps.leaves_tree`, `Staging.Steps.attempted_tree`: what a pipeline does, and what may
  fail of it.
* `Staging.Steps.tree_injective`: the steps can be told from the tree.
* `Staging.agree_steps`: the builder of buildpacks and its steps agree on all paths.
* `Recipe.ofStaging_wired`: the wiring of every staging recipe.
-/

namespace CellRecipe

open Outcome

/-! ## Paths -/

namespace Staging

/-- The path stands right below a directory. -/
def Below (path dir : String) : Prop :=
  ∃ name, name ≠ "" ∧ '/' ∉ name.toList ∧ path = dir ++ "/" ++ name

theorem below_lifecycleDir : Below Container.builderPath Container.lifecycleDir :=
  ⟨"builder", by decide, by decide, rfl⟩

theorem below_imageLifecycleDir : Below Container.imageBuilderPath Container.imageLifecycleDir :=
  ⟨"builder", by decide, by decide, rfl⟩

/-- The directory of a buildpack goes by a digest, which has digits and nothing else. -/
theorem below_buildpacksDir (key : String) : Below (buildpackDir key) Container.buildpacksDir := by
  refine ⟨Md5.digits key.toUTF8.toList, ?_, ?_, rfl⟩
  · intro h
    have hlength := Md5.length_digits key.toUTF8.toList
    rw [h] at hlength
    exact absurd hlength (by decide)
  · intro h
    exact absurd (Md5.mem_digits h) (by decide)

/-! ## Steps -/

/-- The steps by which a package is staged. -/
structure Steps where
  package : Download
  buildpacks : List Download
  /-- The cache of an earlier build. -/
  oldCache : Option Download
  builder : Run
  droplet : Upload
  /-- The cache of this build. -/
  newCache : Upload

namespace Steps

/-- What is fetched: the package first, the cache last, and only the cache may be missing. -/
def downloads (s : Steps) : List Action :=
  .download s.package :: s.buildpacks.map .download
    ++ s.oldCache.toList.map fun d => .attempt (.download d)

/-- The steps as one action. -/
def tree (s : Steps) : Action :=
  .serial [
    .parallel s.downloads,
    .progress (.run s.builder) "Staging..." "Staging complete" "Staging failed",
    .progress (.parallel [.upload s.droplet, .upload s.newCache])
      "Uploading droplet, build artifacts cache..." "Uploading complete" "Uploading failed"]

theorem leaves_tree (s : Steps) :
    s.tree.leaves = (s.package :: s.buildpacks ++ s.oldCache.toList).map .download
      ++ [.run s.builder, .upload s.droplet, .upload s.newCache] := by
  have hbuildpacks : (s.buildpacks.map Action.download).flatMap Action.leaves
      = s.buildpacks.map .download := Action.flatMap_leaves_map (fun _ => rfl) _
  have hcache : (s.oldCache.toList.map fun d => Action.attempt (.download d)).flatMap Action.leaves
      = s.oldCache.toList.map .download := Action.flatMap_leaves_map (fun _ => rfl) _
  simp [tree, downloads, Action.leaves, Action.leavesIn_eq_flatMap, hbuildpacks, hcache]

theorem runs_tree (s : Steps) : s.tree.runs = [s.builder] := by
  rw [Action.runs, leaves_tree, List.filterMap_append, Action.filterMap_map_eq_nil fun _ => rfl]
  rfl

theorem uploads_tree (s : Steps) : s.tree.uploads = [s.droplet, s.newCache] := by
  rw [Action.uploads, leaves_tree, List.filterMap_append, Action.filterMap_map_eq_nil fun _ => rfl]
  rfl

theorem downloads_tree (s : Steps) :
    s.tree.downloads = s.package :: s.buildpacks ++ s.oldCache.toList := by
  have hrest : [Action.run s.builder, .upload s.droplet, .upload s.newCache].filterMap
      Action.download? = [] := rfl
  rw [Action.downloads_eq, leaves_tree, List.filterMap_append, Action.filterMap_download?_map,
    hrest, List.append_nil]

/-- Nothing but the old cache may be missing. -/
theorem attempted_tree (s : Steps) : s.tree.attempted = s.oldCache.toList.map .download := by
  have hbuildpacks : (s.buildpacks.map Action.download).flatMap Action.attempted = [] :=
    Action.flatMap_attempted_map_nil (fun _ => rfl) _
  have hcache : (s.oldCache.toList.map fun d => Action.attempt (.download d)).flatMap
      Action.attempted = s.oldCache.toList.map .download := by
    cases s.oldCache <;> rfl
  simp [tree, downloads, Action.attempted, Action.attemptedIn_eq_flatMap, hbuildpacks, hcache]

theorem filterMap_download?_downloads (s : Steps) :
    s.downloads.filterMap Action.download? = s.package :: s.buildpacks := by
  have hcache : (s.oldCache.toList.map fun d => Action.attempt (.download d)).filterMap
      Action.download? = [] := Action.filterMap_map_eq_nil (fun _ => rfl) _
  rw [downloads, List.filterMap_append, List.filterMap_cons, Action.filterMap_download?_map,
    hcache, List.append_nil]
  rfl

/-- The steps can be told from their tree. -/
theorem tree_injective {s t : Steps} (h : s.tree = t.tree) : s = t := by
  simp only [tree, Action.serial.injEq, Action.parallel.injEq, Action.progress.injEq,
    Action.run.injEq, Action.upload.injEq, List.cons.injEq, and_true] at h
  obtain ⟨hdownloads, hbuilder, hdroplet, hnewCache⟩ := h
  have hfetched : s.package :: s.buildpacks = t.package :: t.buildpacks := by
    rw [← filterMap_download?_downloads, hdownloads, filterMap_download?_downloads]
  obtain ⟨hpackage, hbuildpacks⟩ := List.cons.inj hfetched
  have hcache : s.oldCache = t.oldCache := by
    rw [downloads, downloads, hpackage, hbuildpacks] at hdownloads
    have hattempts := List.append_cancel_left hdownloads
    cases hs : s.oldCache <;> cases ht : t.oldCache <;> simp_all
  cases s
  cases t
  simp_all

/-- The steps fetch from the locations of a request, and hand in to them. -/
structure Located (s : Steps) (locations : Blobstore) : Prop where
  package : locations.packageDownload = some s.package.source
  oldCache : locations.cacheDownload = s.oldCache.map (·.source)
  droplet : locations.dropletUpload = some s.droplet.target
  newCache : locations.cacheUpload = some s.newCache.target

/-- The arguments of the builder name the paths of the other steps, each one once: where its inputs
are put, and from where its results are taken. -/
structure Agree (s : Steps) : Prop where
  package : s.builder.valuesOf "-buildDir" = [s.package.target]
  oldCache : ∀ d ∈ s.oldCache, s.builder.valuesOf "-buildArtifactsCacheDir" = [d.target]
  droplet : s.builder.valuesOf "-outputDroplet" = [s.droplet.source]
  newCache : s.builder.valuesOf "-outputBuildArtifactsCache" = [s.newCache.source]
  buildpacks : ∃ dir, s.builder.valuesOf "-buildpacksDir" = [dir] ∧
    ∀ d ∈ s.buildpacks, Below d.target dir

end Steps

/-! ## The steps of a message -/

variable {settings : Settings} {request : StagingRequest} {stack : String} {asked : List Buildpack}
  {m : StagingMessage} {entries : List BuildpackEntry}

/-- The steps that a message leads to, with a builder and the buildpacks that are fetched for it. -/
def steps (m : StagingMessage) (buildpacks : List Download) (builder : Run) : Steps where
  package := packageFetch m
  buildpacks := buildpacks
  oldCache := cacheFetch? m
  builder := builder
  droplet := dropletUpload m
  newCache := cacheUpload m

/-- The buildpacks that are fetched for a message. -/
def fetched (m : StagingMessage) : List Download :=
  (m.buildpacks.filter fun e => !e.isCustom).map buildpackFetch

theorem action_buildpackBase (settings : Settings) (request : StagingRequest) (stack : String)
    (m : StagingMessage) : (buildpackBase settings request stack m).action
      = (steps m (fetched m) (buildpackBuilder settings request m)).tree := rfl

theorem action_cnbBase (settings : Settings) (request : StagingRequest) (stack : String)
    (m : StagingMessage) : (cnbBase settings request stack m).action
      = (steps m [] (cnbBuilder settings request m)).tree := rfl

theorem located_steps (h : m.Carries request entries) (buildpacks : List Download)
    (builder : Run) : (steps m buildpacks builder).Located request.blobstore where
  package := h.package
  oldCache := by
    rw [h.cache]
    show m.cacheDownload = Option.map _ (Option.map _ m.cacheDownload)
    rw [Option.map_map]
    exact Option.map_id'.symm
  droplet := h.dropletUpload
  newCache := h.cacheUpload

theorem agree_steps (settings : Settings) (request : StagingRequest) (m : StagingMessage) :
    (steps m (fetched m) (buildpackBuilder settings request m)).Agree where
  package := valuesOf_buildpackBuilder settings request m "-buildDir"
  oldCache := by
    intro d hd
    obtain ⟨source, -, rfl⟩ := Option.map_eq_some_iff.1 hd
    exact valuesOf_buildpackBuilder settings request m "-buildArtifactsCacheDir"
  droplet := valuesOf_buildpackBuilder settings request m "-outputDroplet"
  newCache := valuesOf_buildpackBuilder settings request m "-outputBuildArtifactsCache"
  buildpacks := by
    refine ⟨Container.buildpacksDir, valuesOf_buildpackBuilder settings request m "-buildpacksDir",
      ?_⟩
    intro d hd
    obtain ⟨e, -, rfl⟩ := List.mem_map.1 hd
    exact below_buildpacksDir e.key

/-! ## Plans -/

/-- The plan for buildpacks is made from a message that passes. -/
theorem message_of_buildpackPlan_eq_ok {p : Plan}
    (h : buildpackPlan settings request stack asked = .ok p) :
    ∃ m bundle, StagingMessage.forBuildpacks request stack asked = .ok m ∧
      (buildpackBase settings request stack m).bundled settings (buildpackBundle stack) bundle
        = p := by
  obtain ⟨m, hm, hp⟩ := bind_eq_ok.1 h
  obtain ⟨bundle, -, rfl⟩ := Plan.withBundle_eq_ok.1 hp
  exact ⟨m, bundle, hm, rfl⟩

/-- The plan for cloud native buildpacks is made from a message that passes. -/
theorem message_of_cnbPlan_eq_ok {credentials : Option String} {p : Plan}
    (h : cnbPlan settings request stack asked credentials = .ok p) :
    ∃ m bundle, StagingMessage.forCnb request stack asked credentials = .ok m ∧
      (cnbBase settings request stack m).bundled settings (cnbBundle stack) bundle = p := by
  obtain ⟨m, hm, hp⟩ := bind_eq_ok.1 h
  obtain ⟨bundle, -, rfl⟩ := Plan.withBundle_eq_ok.1 hp
  exact ⟨m, bundle, hm, rfl⟩

theorem bundled_of_imagePlan_eq_ok {image : Option String}
    {credentials : Option ImageCredentials} {p : Plan}
    (h : imagePlan settings request image credentials = .ok p) :
    ∃ reference bundle, (imageBase settings request reference credentials).bundled settings
      (imageBundle Container.imageLifecycleDir) bundle = p := by
  obtain ⟨reference, -, hp⟩ := bind_eq_ok.1 h
  obtain ⟨bundle, -, rfl⟩ := Plan.withBundle_eq_ok.1 hp
  exact ⟨reference, bundle, rfl⟩

/-- The plan of a package that is built is a pipeline between the locations of the request. -/
theorem exists_steps {p : Plan} (hbuilt : request.lifecycle.Built)
    (h : plan settings request.lifecycle request = .ok p) :
    ∃ s : Steps, p.action = s.tree ∧ s.Located request.blobstore ∧
      (request.lifecycle.kind = .cnb → s.buildpacks = []) ∧
      (request.lifecycle.kind = .buildpack → s.Agree) := by
  cases hl : request.lifecycle with
  | buildpack stack asked =>
      rw [hl] at h
      obtain ⟨m, bundle, hm, rfl⟩ := message_of_buildpackPlan_eq_ok h
      have hcarries := (StagingMessage.repeats_of_forBuildpacks hm).carries
      refine ⟨_, ?_, located_steps hcarries _ _, nofun, fun _ => agree_steps settings request m⟩
      rw [Plan.action_bundled, action_buildpackBase]
  | docker image credentials =>
      rw [hl] at hbuilt
      exact absurd hbuilt (Lifecycle.not_built_docker image credentials)
  | cnb stack asked credentials =>
      rw [hl] at h
      obtain ⟨m, bundle, hm, rfl⟩ := message_of_cnbPlan_eq_ok h
      have hcarries := (StagingMessage.repeats_of_forCnb hm).carries
      refine ⟨steps m [] (cnbBuilder settings request m), ?_, located_steps hcarries _ _,
        fun _ => rfl, nofun⟩
      rw [Plan.action_bundled, action_cnbBase]

/-- A plan has one program to run, and this comes with the one asset of the plan. -/
theorem exists_builder {l : Lifecycle} {p : Plan} (h : plan settings l request = .ok p) :
    ∃ run dir, p.action.runs = [run] ∧
      p.cachedDependencies.map (·.target) ++ p.imageLayers.map (·.target) = [dir] ∧
      Below run.path dir := by
  cases l with
  | buildpack stack asked =>
      obtain ⟨m, bundle, -, rfl⟩ := message_of_buildpackPlan_eq_ok h
      refine ⟨buildpackBuilder settings request m, Container.lifecycleDir, ?_,
        Plan.targets_bundled _ _ _ rfl rfl, below_lifecycleDir⟩
      rw [Plan.action_bundled, action_buildpackBase, Steps.runs_tree]
      rfl
  | docker image credentials =>
      obtain ⟨reference, bundle, rfl⟩ := bundled_of_imagePlan_eq_ok h
      refine ⟨imageBuilder settings request reference credentials, Container.imageLifecycleDir, ?_,
        Plan.targets_bundled _ _ _ rfl rfl, below_imageLifecycleDir⟩
      rw [Plan.action_bundled]
      rfl
  | cnb stack asked credentials =>
      obtain ⟨m, bundle, -, rfl⟩ := message_of_cnbPlan_eq_ok h
      refine ⟨cnbBuilder settings request m, Container.lifecycleDir, ?_,
        Plan.targets_bundled _ _ _ rfl rfl, below_lifecycleDir⟩
      rw [Plan.action_bundled, action_cnbBase, Steps.runs_tree]
      rfl

end Staging

/-! ## Recipes -/

namespace Recipe

open Staging

/-- A recipe that stages with buildpacks has the pipeline of a message that passes. -/
theorem message_of_buildpack {settings : Settings} {request : StagingRequest} {recipe : Recipe}
    {stack : String} {asked : List Buildpack} (h : ofStaging settings request = .ok recipe)
    (hl : request.lifecycle = .buildpack stack asked) :
    ∃ m, StagingMessage.forBuildpacks request stack asked = .ok m ∧ recipe.action
      = .timeout (steps m (fetched m) (buildpackBuilder settings request m)).tree
        settings.timeoutMs "" := by
  obtain ⟨plan, rules, files, hplan, -, -, rfl⟩ := ofStaging_eq_ok.1 h
  rw [hl] at hplan
  obtain ⟨m, bundle, hm, rfl⟩ := message_of_buildpackPlan_eq_ok hplan
  refine ⟨m, hm, ?_⟩
  show Action.timeout (Plan.bundled _ _ _ _).action settings.timeoutMs "" = _
  rw [Plan.action_bundled, action_buildpackBase]

/-- A recipe that stages with cloud native buildpacks has the pipeline of a message that passes. -/
theorem message_of_cnb {settings : Settings} {request : StagingRequest} {recipe : Recipe}
    {stack : String} {asked : List Buildpack} {credentials : Option String}
    (h : ofStaging settings request = .ok recipe)
    (hl : request.lifecycle = .cnb stack asked credentials) :
    ∃ m, StagingMessage.forCnb request stack asked credentials = .ok m ∧ recipe.action
      = .timeout (steps m [] (cnbBuilder settings request m)).tree settings.timeoutMs "" := by
  obtain ⟨plan, rules, files, hplan, -, -, rfl⟩ := ofStaging_eq_ok.1 h
  rw [hl] at hplan
  obtain ⟨m, bundle, hm, rfl⟩ := message_of_cnbPlan_eq_ok hplan
  refine ⟨m, hm, ?_⟩
  show Action.timeout (Plan.bundled _ _ _ _).action settings.timeoutMs "" = _
  rw [Plan.action_bundled, action_cnbBase]

/--
**The steps of staging are wired to the request and to each other.** A package that is built is
staged by a pipeline under a time limit: downloads side by side, one run, two uploads side by side.
The first download is the package, the last one the old cache if the request has a location for it,
and this alone is attempted. The droplet and the new cache go to the locations that the request has
for them. With cloud native buildpacks nothing else is fetched, and with buildpacks the arguments of
the builder name the paths that the other steps use. For all lifecycles the one program that runs
lies in the directory of the one asset of the recipe.
-/
theorem ofStaging_wired {settings : Settings} {request : StagingRequest} {recipe : Recipe}
    (h : ofStaging settings request = .ok recipe) :
    (request.lifecycle.Built → ∃ s : Steps,
      recipe.action = .timeout s.tree settings.timeoutMs "" ∧
      s.Located request.blobstore ∧
      recipe.action.runs = [s.builder] ∧
      recipe.action.uploads = [s.droplet, s.newCache] ∧
      recipe.action.leaves = (s.package :: s.buildpacks ++ s.oldCache.toList).map .download
        ++ [.run s.builder, .upload s.droplet, .upload s.newCache] ∧
      recipe.action.attempted = s.oldCache.toList.map .download ∧
      (request.lifecycle.kind = .cnb → s.buildpacks = []) ∧
      (request.lifecycle.kind = .buildpack → s.Agree)) ∧
    ∃ run dir, recipe.action.runs = [run] ∧
      recipe.cachedDependencies.map (·.target) ++ recipe.imageLayers.map (·.target) = [dir] ∧
      Below run.path dir := by
  obtain ⟨plan, rules, files, hplan, -, -, rfl⟩ := ofStaging_eq_ok.1 h
  -- The recipe puts a time limit around the plan and takes over its assets.
  have haction : (staged settings request plan rules files).action
      = .timeout plan.action settings.timeoutMs "" := rfl
  constructor
  · intro hbuilt
    obtain ⟨s, htree, hlocated, hcnb, hbuildpack⟩ := exists_steps hbuilt hplan
    rw [haction, htree]
    exact ⟨s, rfl, hlocated, s.runs_tree, s.uploads_tree, s.leaves_tree, s.attempted_tree, hcnb,
      hbuildpack⟩
  · obtain ⟨run, dir, hruns, htargets, hbelow⟩ := exists_builder hplan
    exact ⟨run, dir, hruns, htargets, hbelow⟩

/-- Settings with a bundle for the buildpacks of one stack. -/
def buildpackSettings : Settings :=
  { Settings.standard with bundles := Table.empty.insert "buildpack/cflinuxfs4" "lifecycle.tgz" }

/-- A request with all locations and one installed buildpack. -/
def wiredRequest : StagingRequest :=
  { (default : StagingRequest) with
    lifecycle := .buildpack "cflinuxfs4" [.admin ⟨"ruby", "ruby-key", "https://store/ruby"⟩]
    blobstore := {
      packageDownload := some "https://store/package"
      dropletUpload := some "https://store/droplet"
      cacheDownload := some "https://store/cache"
      cacheUpload := some "https://store/new-cache"
      cacheChecksum := none } }

theorem ofStaging_wired_ruby :
    ∃ recipe, ofStaging buildpackSettings wiredRequest = .ok recipe ∧
      wiredRequest.lifecycle.Built ∧ wiredRequest.lifecycle.kind = .buildpack ∧
      ∃ s : Steps, recipe.action = .timeout s.tree buildpackSettings.timeoutMs "" ∧
        s.Located wiredRequest.blobstore ∧ s.Agree := by
  have hserved : ∃ recipe, ofStaging buildpackSettings wiredRequest = .ok recipe := ⟨_, rfl⟩
  obtain ⟨recipe, h⟩ := hserved
  obtain ⟨hbuilt, -⟩ := ofStaging_wired h
  obtain ⟨s, haction, hlocated, -, -, -, -, -, hagree⟩ := hbuilt (.inl rfl)
  exact ⟨recipe, h, .inl rfl, rfl, s, haction, hlocated, hagree rfl⟩

end Recipe

end CellRecipe
