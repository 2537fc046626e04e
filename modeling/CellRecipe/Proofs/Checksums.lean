import CellRecipe.Proofs.AssetDelivery
import CellRecipe.Proofs.RunSelection
import CellRecipe.Proofs.StagingWiring

/-!
# Checksums and their halves

A checksum is the name of an algorithm and a value, and a recipe writes the two as fields of their
own, in downloads as well as in layers. One half without the other says nothing: what is fetched
would be refused, or taken unseen. So the two are there together in all that a recipe brings, under
every lifecycle and however assets are delivered.

What is expected of a package is what its request declares, as far as a value is known; an algorithm
alone is dropped. What is expected of a droplet is the checksum of the droplet that is selected, and
a recipe names it twice: for itself, and for the download or the layer that brings the droplet.

## Main definitions

* `Plan.Paired`, `Recipe.Paired`: no half of a checksum stands alone.
* `Recipe.brought`: the locations that are fetched for one container alone, with expected values.

## Main results

* `Launch.paired_of_plan_eq_ok`, `Staging.paired_of_plan_eq_ok`: what a lifecycle brings.
* `Recipe.brought_of_ofRun_eq_ok`: the droplet is brought once, under its own checksum.
* `Recipe.checksums_agree`: the checksums of all recipes.
-/

namespace CellRecipe

open Outcome

/-! ## Both halves -/

/-- The algorithm and the value of the checksum are there together or not at all. -/
def Download.Paired (d : Download) : Prop :=
  d.checksumAlgorithm.isSome = true ↔ d.checksumValue.isSome = true

/-- The algorithm and the value of the digest are there together or not at all. -/
def ImageLayer.Paired (l : ImageLayer) : Prop :=
  l.digestAlgorithm.isSome = true ↔ l.digestValue.isSome = true

/-- No half of a checksum stands alone in what a plan brings. -/
structure Plan.Paired (p : Plan) : Prop where
  downloads : ∀ d ∈ p.action.downloads, d.Paired
  layers : ∀ l ∈ p.imageLayers, l.Paired

/-- No half of a checksum stands alone in what a recipe brings. -/
structure Recipe.Paired (r : Recipe) : Prop where
  downloads : ∀ d ∈ r.action.downloads, d.Paired
  layers : ∀ l ∈ r.imageLayers, l.Paired

/-- An algorithm that is named for a value is there when the value is. -/
theorem isSome_map_const_iff (value : Option String) (algorithm : String) :
    (value.map fun _ => algorithm).isSome = true ↔ value.isSome = true := by
  cases value <;> simp

/-- The bundle of a lifecycle has no checksum at all. -/
theorem Plan.Paired.bundled {p : Plan} (h : p.Paired) (settings : Settings) (b : Bundle)
    (bundle : String) : (p.bundled settings b bundle).Paired := by
  refine ⟨?_, ?_⟩
  · rw [Plan.action_bundled]
    exact h.downloads
  · intro l hl
    unfold Plan.bundled at hl
    cases hdeclared : settings.declarativeAssets with
    | true =>
        rw [hdeclared] at hl
        rcases List.mem_append.1 hl with hl | hl
        · exact h.layers l hl
        · rw [List.mem_singleton.1 hl]
          exact Iff.rfl
    | false =>
        rw [hdeclared] at hl
        exact h.layers l hl

/-! ## Staging -/

namespace Staging

variable {settings : Settings} {request : StagingRequest} {l : Lifecycle} {p : Plan}
  {m : StagingMessage}

theorem paired_packageFetch (m : StagingMessage) : (packageFetch m).Paired :=
  isSome_map_const_iff m.packageChecksum.value m.packageChecksum.algorithm

theorem paired_of_mem_fetched {d : Download} (h : d ∈ fetched m) : d.Paired := by
  obtain ⟨e, -, rfl⟩ := List.mem_map.1 h
  exact Iff.rfl

theorem paired_of_mem_cacheFetch? {d : Download} (h : d ∈ (cacheFetch? m).toList) :
    d.Paired := by
  obtain ⟨source, -, rfl⟩ := Option.map_eq_some_iff.1 (Option.mem_toList.1 h)
  exact isSome_map_const_iff m.cacheChecksum "sha256"

/-- All that a message leads to is paired if the buildpacks are. -/
theorem paired_steps {buildpacks : List Download} (h : ∀ d ∈ buildpacks, d.Paired) (builder : Run) :
    ∀ d ∈ (steps m buildpacks builder).tree.downloads, d.Paired := by
  intro d hd
  rw [Steps.downloads_tree] at hd
  rcases List.mem_append.1 hd with hd | hd
  · rcases List.mem_cons.1 hd with rfl | hd
    · exact paired_packageFetch m
    · exact h d hd
  · exact paired_of_mem_cacheFetch? hd

/-- A package is fetched under the checksum that was declared, once its value is known. -/
theorem packageFetch_checksum_iff {declared : Option PackageChecksum}
    (h : m.packageChecksum = declared.getD ⟨"sha256", none⟩) (algorithm value : String) :
    (packageFetch m).checksumAlgorithm = some algorithm ∧
        (packageFetch m).checksumValue = some value
      ↔ declared = some ⟨algorithm, some value⟩ := by
  have halgorithm : (packageFetch m).checksumAlgorithm
      = m.packageChecksum.value.map fun _ => m.packageChecksum.algorithm := rfl
  have hvalue : (packageFetch m).checksumValue = m.packageChecksum.value := rfl
  rw [halgorithm, hvalue, h]
  cases declared with
  | none => simp
  | some c =>
      obtain ⟨name, known⟩ := c
      cases known <;> simp

theorem paired_of_plan_eq_ok (h : plan settings l request = .ok p) : p.Paired := by
  cases l with
  | buildpack stack asked =>
      obtain ⟨m, bundle, -, rfl⟩ := message_of_buildpackPlan_eq_ok h
      have hbase : (buildpackBase settings request stack m).Paired :=
        ⟨paired_steps (fun d hd => paired_of_mem_fetched hd) _, nofun⟩
      exact hbase.bundled settings _ bundle
  | docker image credentials =>
      obtain ⟨reference, bundle, rfl⟩ := bundled_of_imagePlan_eq_ok h
      have hbase : (imageBase settings request reference credentials).Paired := ⟨nofun, nofun⟩
      exact hbase.bundled settings _ bundle
  | cnb stack asked credentials =>
      obtain ⟨m, bundle, -, rfl⟩ := message_of_cnbPlan_eq_ok h
      have hbase : (cnbBase settings request stack m).Paired :=
        ⟨paired_steps (fun d hd => absurd hd List.not_mem_nil) _, nofun⟩
      exact hbase.bundled settings _ bundle

end Staging

/-! ## Launches -/

namespace Launch

variable {settings : Settings} {request : RunRequest} {l : Lifecycle} {d : Droplet}
  {command : String} {p : Plan}

/-- A droplet is paired as a download and as a layer. -/
theorem paired_delivered (settings : Settings) (d : Droplet) (url : String) (run : Run) :
    (delivered settings d url run).Paired := by
  by_cases fetch : settings.declarativeAssets = false ∨ d.sha256 = none
  · rw [delivered_of_fetch fetch]
    refine ⟨fun x hx => ?_, nofun⟩
    rw [List.mem_singleton.1 hx]
    exact isSome_map_const_iff d.sha256 "sha256"
  · obtain ⟨hdeclared, hsha⟩ := not_or.1 fetch
    have declared : settings.declarativeAssets = true := Bool.not_eq_false _ ▸ hdeclared
    obtain ⟨sha256, hsha⟩ := Option.ne_none_iff_exists'.1 hsha
    rw [delivered_of_layer declared hsha]
    refine ⟨nofun, fun x hx => ?_⟩
    rw [List.mem_singleton.1 hx]
    exact Iff.rfl

theorem paired_of_onDroplet_eq_ok {run : Run} {b : Bundle}
    (h : (onDroplet settings d run >>= fun q => q.withBundle settings b) = .ok p) : p.Paired := by
  obtain ⟨q, hq, hbundle⟩ := bind_eq_ok.1 h
  obtain ⟨url, -, rfl⟩ := onDroplet_eq_ok.1 hq
  obtain ⟨bundle, -, rfl⟩ := Plan.withBundle_eq_ok.1 hbundle
  exact (paired_delivered settings d url run).bundled settings b bundle

theorem paired_of_plan_eq_ok (h : plan settings l request d command = .ok p) : p.Paired := by
  cases l with
  | buildpack stack asked => exact paired_of_onDroplet_eq_ok h
  | docker image credentials =>
      obtain ⟨bundle, -, rfl⟩ := Plan.withBundle_eq_ok.1 h
      have hbase : (imageBase request credentials d command).Paired := ⟨nofun, nofun⟩
      exact hbase.bundled settings _ bundle
  | cnb stack asked credentials => exact paired_of_onDroplet_eq_ok h

end Launch

/-! ## Recipes -/

namespace Recipe

variable {settings : Settings} {recipe : Recipe}

/-- The first thing that a recipe fetches is the package of its request, under the checksum that the
request declares for it, if this has a value. -/
structure FetchesPackage (request : StagingRequest) (recipe : Recipe) (package : Download) :
    Prop where
  first : recipe.action.downloads.head? = some package
  artifact : package.artifact = "app package"
  source : request.blobstore.packageDownload = some package.source
  checksum : ∀ algorithm value, package.checksumAlgorithm = some algorithm ∧
    package.checksumValue = some value ↔ request.package.checksum = some ⟨algorithm, some value⟩

/-- What a recipe fetches for its container alone: the locations of downloads and layers, each with
the value that is expected. -/
def brought (recipe : Recipe) : List (String × Option String) :=
  recipe.action.downloads.map (fun d => (d.source, d.checksumValue))
    ++ (ImageLayer.exclusive recipe.imageLayers).map fun l => (l.url, l.digestValue)

theorem paired_of_ofStaging_eq_ok {request : StagingRequest}
    (h : ofStaging settings request = .ok recipe) : recipe.Paired := by
  obtain ⟨plan, rules, files, hplan, -, -, rfl⟩ := ofStaging_eq_ok.1 h
  have hpaired := Staging.paired_of_plan_eq_ok hplan
  exact ⟨hpaired.downloads, hpaired.layers⟩

theorem paired_of_ofRun_eq_ok {request : RunRequest} (h : ofRun settings request = .ok recipe) :
    recipe.Paired := by
  obtain ⟨plan, root, rules, files, hplan, -, -, -, rfl⟩ := ofRun_eq_ok.1 h
  have hpaired := Launch.paired_of_plan_eq_ok hplan
  exact ⟨hpaired.downloads, hpaired.layers⟩

/-- A pipeline fetches the package of its message first. -/
theorem fetchesPackage_of_repeats {request : StagingRequest} {stack : String}
    {entries : List BuildpackEntry} {credentials : Option String} {autoDetect : Bool}
    {m : StagingMessage} (h : m.Repeats request stack entries credentials autoDetect)
    {buildpacks : List Download} {builder : Run} {milliseconds : UInt64} {logSource : String}
    (haction : recipe.action
      = .timeout (Staging.steps m buildpacks builder).tree milliseconds logSource) :
    FetchesPackage request recipe (Staging.packageFetch m) := by
  refine ⟨?_, rfl, h.package, Staging.packageFetch_checksum_iff h.packageChecksum⟩
  rw [haction]
  show (Staging.steps m buildpacks builder).tree.downloads.head? = _
  rw [Staging.Steps.downloads_tree]
  rfl

/-- A package that is built is fetched under its own checksum. -/
theorem exists_fetchesPackage {request : StagingRequest} (built : request.lifecycle.Built)
    (h : ofStaging settings request = .ok recipe) :
    ∃ package, FetchesPackage request recipe package := by
  cases hl : request.lifecycle with
  | buildpack stack asked =>
      obtain ⟨m, hm, haction⟩ := message_of_buildpack h hl
      exact ⟨_, fetchesPackage_of_repeats (StagingMessage.repeats_of_forBuildpacks hm) haction⟩
  | docker image credentials =>
      rw [hl] at built
      exact absurd built (Lifecycle.not_built_docker image credentials)
  | cnb stack asked credentials =>
      obtain ⟨m, hm, haction⟩ := message_of_cnb h hl
      exact ⟨_, fetchesPackage_of_repeats (StagingMessage.repeats_of_forCnb hm) haction⟩

/-- A built droplet is brought once, under its own checksum. -/
theorem brought_of_launches {request : RunRequest} {d : Droplet} {command : String}
    (built : request.lifecycle.Built) (h : Launches settings request d command recipe) :
    ∃ url, d.downloadUrl = some url ∧ recipe.brought = [(url, d.sha256)] := by
  obtain ⟨run, -, -, hbrings⟩ := h.brings
  unfold brought
  generalize recipe.action = action at hbrings
  generalize ImageLayer.exclusive recipe.imageLayers = layers at hbrings
  cases hbrings with
  | fetched built fetch download source checksum algorithm =>
      refine ⟨download.source, source, ?_⟩
      rw [← checksum]
      rfl
  | layered built declared layer source known checksum algorithm =>
      refine ⟨layer.url, source, ?_⟩
      rw [← checksum]
      rfl
  | root image => exact absurd built image

/-- **The checksums of a recipe are whole and agree.** In no recipe does half of a checksum stand
alone. A recipe that stages fetches its package under the checksum that was declared, once the value
is known. A recipe to run has the checksum of the droplet that is selected, if this has one, and the
one download or layer that brings the droplet expects the same value. -/
theorem checksums_agree (settings : Settings) :
    (∀ request recipe, ofStaging settings request = .ok recipe → recipe.Paired ∧
      (request.lifecycle.Built → ∃ package, FetchesPackage request recipe package)) ∧
    (∀ request recipe, ofRun settings request = .ok recipe → recipe.Paired ∧
      ∃ d command, request.Selects d command ∧
        recipe.checksum = d.sha256.map (fun value => ⟨"sha256", value⟩) ∧
        (request.lifecycle.Built →
          ∃ url, d.downloadUrl = some url ∧ recipe.brought = [(url, d.sha256)])) := by
  refine ⟨?_, ?_⟩
  · intro request recipe h
    exact ⟨paired_of_ofStaging_eq_ok h, fun built => exists_fetchesPackage built h⟩
  · intro request recipe h
    have hlaunches := launches_of_ofRun_eq_ok h
    exact ⟨paired_of_ofRun_eq_ok h, _, _, request.selects_selected, hlaunches.checksum,
      fun built => brought_of_launches built hlaunches⟩

/-- A request whose package has a checksum of another kind. -/
def declaredRequest : StagingRequest :=
  { wiredRequest with package := ⟨"package", some ⟨"sha1", some "ab12"⟩⟩ }

/-- A package and a droplet, both with a checksum, and a droplet that is declared as a layer. -/
theorem checksums_agree_declared :
    (∃ recipe, ofStaging buildpackSettings declaredRequest = .ok recipe ∧ recipe.Paired ∧
      ∃ package, FetchesPackage declaredRequest recipe package ∧
        package.checksumAlgorithm = some "sha1" ∧ package.checksumValue = some "ab12") ∧
    ∃ recipe, ofRun stackSettings.declaring checkedRun = .ok recipe ∧ recipe.Paired ∧
      ∃ d command, checkedRun.Selects d command ∧
        recipe.checksum = d.sha256.map (fun value => ⟨"sha256", value⟩) ∧
        ∃ url, d.downloadUrl = some url ∧ recipe.brought = [(url, d.sha256)] := by
  have hstaged : ∃ recipe, ofStaging buildpackSettings declaredRequest = .ok recipe := ⟨_, rfl⟩
  have hlaunched : ∃ recipe, ofRun stackSettings.declaring checkedRun = .ok recipe := ⟨_, rfl⟩
  obtain ⟨staged, hstaged⟩ := hstaged
  obtain ⟨launched, hlaunched⟩ := hlaunched
  obtain ⟨hpaired, hpackage⟩ := (checksums_agree buildpackSettings).1 _ _ hstaged
  obtain ⟨package, hfetches⟩ := hpackage (.inl rfl)
  obtain ⟨hpaired', d, command, hselects, hchecksum, hbrought⟩ :=
    (checksums_agree stackSettings.declaring).2 _ _ hlaunched
  exact ⟨⟨staged, hstaged, hpaired, package, hfetches, (hfetches.checksum "sha1" "ab12").2 rfl⟩,
    launched, hlaunched, hpaired', d, command, hselects, hchecksum, hbrought (.inl rfl)⟩

end Recipe

end CellRecipe
