import CellRecipe.Proofs.Conditions

/-!
# Assets that are fetched and assets that are declared

One setting decides how the assets of a container are delivered. Where they are fetched, the bundle
of a lifecycle is a dependency of the cell and a droplet is downloaded before its launcher starts.
Where they are declared, both are layers of the image. The setting is read in two places, once for
every bundle and once for a droplet, and there also the checksum of the droplet counts.

Two recipes of one request, one for each value of the setting, are compared as they are built. Plans
without a bundle differ at most in the delivery of a droplet. A bundle is then added to both, here
as a dependency and there as a layer. Nothing else in a recipe depends on the setting.

## Main definitions

* `Settings.fetching`, `Settings.declaring`: the settings with each value.
* `Delivery`: how a droplet reaches both containers.
* `Plan.Counterparts`, `Recipe.Counterparts`: plans and recipes that differ in delivery alone.

## Main results

* `Plan.Counterparts.bundled`: a bundle is added to both plans.
* `Staging.plan_alike`, `Launch.plan_alike`: the plans of one request.
* `Recipe.fetched_alike_declared`: the recipes of one request.
-/

namespace CellRecipe

open Outcome

/-! ## The two ways -/

/-- The settings where assets are fetched. -/
def Settings.fetching (s : Settings) : Settings := { s with declarativeAssets := false }

/-- The settings where assets are declared. -/
def Settings.declaring (s : Settings) : Settings := { s with declarativeAssets := true }

/-- The dependency that is a bundle. -/
def Bundle.dependency (settings : Settings) (b : Bundle) (bundle : String) : CachedDependency where
  source := location settings bundle
  target := b.target
  cacheKey := b.cacheKey

/-- The layer in place of a dependency, shared with all containers of a cell. -/
def CachedDependency.layer (d : CachedDependency) : ImageLayer where
  name := d.cacheKey
  url := d.source
  target := d.target
  sharing := .shared

/-- The droplet that has to be brought to its launcher. A droplet from an image is there already. -/
def RunRequest.brought? (request : RunRequest) : Option Droplet :=
  match request.lifecycle with
  | .buildpack _ _ => some request.selected.1
  | .docker _ _ => none
  | .cnb _ _ _ => some request.selected.1

/-- How a droplet, if there is one, reaches two containers: what they do where assets are fetched
and where they are declared, and the layers that the second one has to itself. A droplet with a
checksum is downloaded in the first one, under this checksum and before the run that is all that the
second one does. Any other droplet is delivered in one way. -/
inductive Delivery (brought : Option Droplet) : Action → Action → List ImageLayer → Prop
  | layer {d : Droplet} (given : brought = some d)
      {sha256 : String} (known : d.sha256 = some sha256)
      (download : Download) (source : d.downloadUrl = some download.source)
      (checksum : download.checksumValue = some sha256)
      (layer : ImageLayer) (own : layer.sharing = .exclusive) (url : layer.url = download.source)
      (digest : layer.digestValue = download.checksumValue) (run : Run) :
      Delivery brought (.serial [.download download, .run run]) (.run run) [layer]
  | same (unknown : ∀ d, brought = some d → d.sha256 = none) (action : Action) :
      Delivery brought action action []

namespace Delivery

variable {brought : Option Droplet} {fetched declared : Action} {own : List ImageLayer}

/-- Both containers run the same program first. -/
theorem findRun_eq (h : Delivery brought fetched declared own) :
    fetched.findRun = declared.findRun := by
  cases h with
  | layer given known download source checksum layer own url digest run => rfl
  | same unknown action => rfl

/-- Without a droplet nothing is different, also not under a time limit. -/
theorem timeout (h : Delivery none fetched declared own) (milliseconds : UInt64)
    (logSource : String) :
    Delivery none (.timeout fetched milliseconds logSource)
      (.timeout declared milliseconds logSource) own := by
  cases h with
  | layer given => cases given
  | same unknown action => exact .same unknown _

end Delivery

/-! ## Plans -/

namespace Plan

/-- Two plans of one request that differ in delivery alone. What is `shared` with other containers
is a dependency of the first plan and a layer of the second one, after the layers that it has to
itself. -/
structure Counterparts (brought : Option Droplet) (shared : List CachedDependency)
    (fetched declared : Plan) : Prop where
  environment : fetched.environment = declared.environment
  credentials : fetched.imageCredentials = declared.imageCredentials
  dependencies : fetched.cachedDependencies = shared ∧ declared.cachedDependencies = []
  noLayers : fetched.imageLayers = []
  delivery : ∃ own, Delivery brought fetched.action declared.action own ∧
    declared.imageLayers = own ++ shared.map CachedDependency.layer

variable {settings : Settings} {brought : Option Droplet} {shared : List CachedDependency}
  {fetched declared : Plan} {b : Bundle}

/-- A plan without assets is its own counterpart. -/
theorem counterparts_self {p : Plan} (noDependencies : p.cachedDependencies = [])
    (noLayers : p.imageLayers = []) : Counterparts none [] p p := by
  refine ⟨rfl, rfl, ⟨noDependencies, noDependencies⟩, noLayers, [], .same ?_ _, noLayers⟩
  intro d hd
  cases hd

/-- A bundle is one more thing that is shared. -/
theorem Counterparts.bundled (h : Counterparts brought shared fetched declared) (bundle : String) :
    Counterparts brought (shared ++ [b.dependency settings bundle])
      (fetched.bundled settings.fetching b bundle)
      (declared.bundled settings.declaring b bundle) := by
  obtain ⟨own, hdelivery, hlayers⟩ := h.delivery
  refine ⟨h.environment, h.credentials, ⟨?_, h.dependencies.2⟩, h.noLayers, own, hdelivery, ?_⟩
  · show fetched.cachedDependencies ++ [b.dependency settings bundle] = _
    rw [h.dependencies.1]
  · show declared.imageLayers ++ [(b.dependency settings bundle).layer] = _
    rw [hlayers, List.append_assoc, List.map_append]
    rfl

/-- Two plans of one request with the bundle of its lifecycle. -/
def Bundled (settings : Settings) (l : Lifecycle) (brought : Option Droplet)
    (fetched declared : Plan) : Prop :=
  ∃ (b : Bundle) (bundle : String), b.key = l.bundleKey ∧
    settings.bundle? b.key = some bundle ∧
    Counterparts brought [b.dependency settings bundle] fetched declared

/-- Both plans lack the bundle, or get it. -/
theorem Counterparts.withBundle_alike (h : Counterparts brought [] fetched declared)
    {l : Lifecycle} (hkey : b.key = l.bundleKey) :
    Alike (Bundled settings l brought) (fetched.withBundle settings.fetching b)
      (declared.withBundle settings.declaring b) := by
  have hfetching : settings.fetching.bundle? b.key = settings.bundle? b.key := rfl
  have hdeclaring : settings.declaring.bundle? b.key = settings.bundle? b.key := rfl
  unfold withBundle
  rw [hfetching, hdeclaring]
  cases hbundle : settings.bundle? b.key with
  | none => exact .refused _
  | some bundle => exact .served ⟨b, bundle, hkey, hbundle, h.bundled bundle⟩

end Plan

/-- The plans by which a request is staged. -/
theorem Staging.plan_alike (settings : Settings) (l : Lifecycle) (request : StagingRequest) :
    Alike (Plan.Bundled settings l none) (plan settings.fetching l request)
      (plan settings.declaring l request) := by
  -- The plans without the bundle are the same, since nothing in them depends on the delivery.
  cases l with
  | buildpack stack asked =>
      exact .bind_same _ fun m => (Plan.counterparts_self rfl rfl).withBundle_alike rfl
  | docker image credentials =>
      exact .bind_same _ fun m => (Plan.counterparts_self rfl rfl).withBundle_alike rfl
  | cnb stack asked credentials =>
      exact .bind_same _ fun m => (Plan.counterparts_self rfl rfl).withBundle_alike rfl

namespace Launch

/-- A droplet that has to be brought is delivered to both containers. -/
theorem counterparts_delivered (settings : Settings) {d : Droplet} {url : String}
    (source : d.downloadUrl = some url) (run : Run) :
    Plan.Counterparts (some d) [] (delivered settings.fetching d url run)
      (delivered settings.declaring d url run) := by
  rw [delivered_of_fetch (.inl rfl)]
  cases known : d.sha256 with
  | none =>
      rw [delivered_of_fetch (.inr known), known]
      refine ⟨rfl, rfl, ⟨rfl, rfl⟩, rfl, [], .same ?_ _, rfl⟩
      intro d' hd
      rwa [← Option.some.inj hd]
  | some sha256 =>
      rw [delivered_of_layer rfl known]
      exact ⟨rfl, rfl, ⟨rfl, rfl⟩, rfl, [dropletLayer url sha256],
        .layer rfl known _ source rfl _ rfl rfl rfl run, rfl⟩

theorem onDroplet_alike (settings : Settings) (d : Droplet) (run : Run) :
    Alike (Plan.Counterparts (some d) []) (onDroplet settings.fetching d run)
      (onDroplet settings.declaring d run) := by
  unfold onDroplet
  cases source : d.downloadUrl with
  | none => exact .refused _
  | some url => exact .served (counterparts_delivered settings source run)

/-- The plans by which a request runs what it selects. -/
theorem plan_alike (settings : Settings) (request : RunRequest) :
    Alike (Plan.Bundled settings request.lifecycle request.brought?)
      (plan settings.fetching request.lifecycle request request.selected.1 request.selected.2)
      (plan settings.declaring request.lifecycle request request.selected.1
        request.selected.2) := by
  unfold RunRequest.brought?
  cases request.lifecycle with
  | buildpack stack asked =>
      exact (onDroplet_alike settings _ _).bind fun p q h => h.withBundle_alike rfl
  | docker image credentials =>
      exact (Plan.counterparts_self rfl rfl).withBundle_alike rfl
  | cnb stack asked credentials =>
      exact (onDroplet_alike settings _ _).bind fun p q h => h.withBundle_alike rfl

end Launch

/-! ## Recipes -/

namespace Recipe

/-- Two recipes of one request that differ in delivery alone. The bundle of the lifecycle is the one
dependency of the first recipe, and it is the last layer of the second one. The layers before it are
those of a droplet. -/
structure Counterparts (settings : Settings) (l : Lifecycle) (brought : Option Droplet)
    (fetched declared : Recipe) : Prop where
  rest : { fetched with
    action := declared.action
    cachedDependencies := declared.cachedDependencies
    imageLayers := declared.imageLayers } = declared
  run : fetched.action.findRun = declared.action.findRun
  noLayers : fetched.imageLayers = []
  noDependencies : declared.cachedDependencies = []
  delivery : ∃ (b : Bundle) (bundle : String) (own : List ImageLayer),
    b.key = l.bundleKey ∧ settings.bundle? b.key = some bundle ∧
    fetched.cachedDependencies = [b.dependency settings bundle] ∧
    declared.imageLayers = own ++ [(b.dependency settings bundle).layer] ∧
    Delivery brought fetched.action declared.action own

variable {settings : Settings}

theorem counterparts_staged {request : StagingRequest} {fetched declared : Plan}
    (h : Plan.Bundled settings request.lifecycle none fetched declared)
    (egressRules : List EgressRule) (mountedFiles : List MountedFile) :
    Counterparts settings request.lifecycle none
      (staged settings.fetching request fetched egressRules mountedFiles)
      (staged settings.declaring request declared egressRules mountedFiles) := by
  obtain ⟨b, bundle, hkey, hbundle, h⟩ := h
  obtain ⟨own, hdelivery, hlayers⟩ := h.delivery
  have htimeout := hdelivery.timeout settings.timeoutMs ""
  refine ⟨?_, htimeout.findRun_eq, h.noLayers, h.dependencies.2, b, bundle, own, hkey, hbundle,
    h.dependencies.1, hlayers, htimeout⟩
  simp only [staged, h.environment, h.credentials]
  rfl

theorem counterparts_launched {request : RunRequest} {fetched declared : Plan}
    (h : Plan.Bundled settings request.lifecycle request.brought? fetched declared)
    (d : Droplet) (root : String) (egressRules : List EgressRule)
    (mountedFiles : List MountedFile) :
    Counterparts settings request.lifecycle request.brought?
      (launched settings.fetching request d fetched root egressRules mountedFiles)
      (launched settings.declaring request d declared root egressRules mountedFiles) := by
  obtain ⟨b, bundle, hkey, hbundle, h⟩ := h
  obtain ⟨own, hdelivery, hlayers⟩ := h.delivery
  refine ⟨?_, hdelivery.findRun_eq, h.noLayers, h.dependencies.2, b, bundle, own, hkey, hbundle,
    h.dependencies.1, hlayers, hdelivery⟩
  simp only [launched, h.environment, h.credentials]
  rfl

/-- **Declared assets are delivered as fetched ones are.** A request gets a recipe where assets are
fetched exactly when it gets one where they are declared, and else the refusals are the same. The
two recipes differ in delivery alone: the bundle of the lifecycle is a dependency or a shared layer,
and a built droplet with a checksum is downloaded or is a layer of its own. -/
theorem fetched_alike_declared (settings : Settings) :
    (∀ request : StagingRequest, Alike (Counterparts settings request.lifecycle none)
      (ofStaging settings.fetching request) (ofStaging settings.declaring request)) ∧
    ∀ request : RunRequest, Alike (Counterparts settings request.lifecycle request.brought?)
      (ofRun settings.fetching request) (ofRun settings.declaring request) := by
  constructor
  · intro request
    refine (Staging.plan_alike settings request.lifecycle request).bind fun p q h => ?_
    refine .bind_same _ fun rules => .bind_same _ fun files => ?_
    exact .served (counterparts_staged h rules files)
  · intro request
    refine (Launch.plan_alike settings request).bind fun p q h => ?_
    refine .bind_same _ fun root => .bind_same _ fun rules => .bind_same _ fun files => ?_
    exact .served (counterparts_launched h request.selected.1 root rules files)

/-- Settings with a bundle for one stack. -/
def stackSettings : Settings :=
  { Settings.standard with bundles := Table.empty.insert "buildpack/cflinuxfs4" "lifecycle.tgz" }

/-- A request to run a droplet with a checksum. -/
def checkedRun : RunRequest :=
  { (default : RunRequest) with
    lifecycle := .buildpack "cflinuxfs4" []
    droplet :=
      { (default : Droplet) with
        sha256 := some "aa"
        downloadUrl := some "https://blobstore/droplet" } }

-- The droplet is a layer below the bundle, or nothing is a layer at all.
example :
    ((ofRun stackSettings.declaring checkedRun).map fun r =>
      r.imageLayers.map fun l => (l.sharing, l.digestValue))
        = .ok [(.exclusive, some "aa"), (.shared, none)] ∧
    ((ofRun stackSettings.fetching checkedRun).map fun r => r.imageLayers) = .ok [] :=
  ⟨rfl, rfl⟩

end Recipe

end CellRecipe
