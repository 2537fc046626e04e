import CellRecipe.Proofs.StagingWiring

/-!
# Which buildpacks are fetched

The builder is told an order of buildpacks, and looks for each installed one in a directory that
goes by the digest of its key. A buildpack at a location of its own is fetched by the builder
itself. A message tells the two apart by the name of the entry alone: an entry goes for one with a
location of its own if its name is `custom`, and an installed buildpack may have that name too. Then
it stands in the order, and nothing is fetched for it.

## Main definitions

* `Staging.effective`: the buildpacks that count for a request.
* `Recipe.FetchesInstalled`: all installed ones among them are fetched.

## Main results

* `Recipe.exists_steps_of_buildpack`: what is fetched, and what the builder is told.
* `Recipe.fetchesInstalled_iff`: all installed buildpacks are fetched unless one has that name.
* `Recipe.ofStaging_buildpacks`: the two together.
-/

namespace CellRecipe

/-! ## Buildpacks and downloads -/

namespace Buildpack

/-- The installed buildpack that was asked for. -/
def admin? : Buildpack → Option AdminBuildpack
  | .custom _ => none
  | .admin b => some b

/-- What a buildpack is called in the order: an installed one by its key, any other by its
location. -/
def orderKey : Buildpack → String
  | .custom url => url
  | .admin b => b.key

end Buildpack

/-- Where a download comes from, how it is kept and where it goes. -/
def Download.route (d : Download) : String × String × String := (d.source, d.cacheKey, d.target)

/-- The route by which an installed buildpack has to be fetched. -/
def AdminBuildpack.route (b : AdminBuildpack) : String × String × String :=
  (b.url, b.key, "/tmp/buildpacks/" ++ Md5.digits b.key.toUTF8.toList)

namespace Staging

/-- The buildpacks that count for a request: those asked for, or else all that are installed. -/
def effective (asked : List Buildpack) (installed : List AdminBuildpack) : List Buildpack :=
  if asked.isEmpty then installed.map .admin else asked

/-- The entry of a buildpack. -/
def entryOf (skipDetect : Bool) : Buildpack → BuildpackEntry
  | .custom url => ⟨BuildpackEntry.customName, url, url, skipDetect⟩
  | .admin b => .ofAdmin skipDetect b

/-- A message names all buildpacks that count. They need not be detected if they were asked for. -/
theorem requested_eq_map (asked : List Buildpack) (installed : List AdminBuildpack) :
    BuildpackEntry.requested asked installed
      = (effective asked installed).map (entryOf !asked.isEmpty) := by
  cases asked with
  | nil =>
      show installed.map (BuildpackEntry.ofAdmin false) = (installed.map Buildpack.admin).map _
      rw [List.map_map]
      rfl
  | cons first rest =>
      show (first :: rest).map BuildpackEntry.ofBuildpack = (first :: rest).map _
      refine List.map_congr_left fun b _ => ?_
      cases b <;> rfl

theorem map_key_entryOf (skipDetect : Bool) (buildpacks : List Buildpack) :
    (buildpacks.map (entryOf skipDetect)).map BuildpackEntry.key
      = buildpacks.map Buildpack.orderKey := by
  rw [List.map_map]
  refine List.map_congr_left fun b _ => ?_
  cases b <;> rfl

/-- Of the buildpacks at hand those are fetched that are installed and go by another name. -/
theorem routes_entryOf (skipDetect : Bool) (buildpacks : List Buildpack) :
    (((buildpacks.map (entryOf skipDetect)).filter fun e => !e.isCustom).map buildpackFetch).map
        Download.route
      = ((buildpacks.filterMap Buildpack.admin?).filter fun b => b.name != "custom").map
        AdminBuildpack.route := by
  induction buildpacks with
  | nil => rfl
  | cons b rest ih =>
      cases b with
      | custom url => exact ih
      | admin a =>
          have hentry : (entryOf skipDetect (.admin a)).isCustom = (a.name == "custom") := rfl
          have hadmins : (Buildpack.admin a :: rest).filterMap Buildpack.admin?
              = a :: rest.filterMap Buildpack.admin? := rfl
          rw [List.map_cons, hadmins, List.filter_cons, List.filter_cons, hentry]
          cases hname : a.name == "custom" with
          | true =>
              rw [bne, hname]
              exact ih
          | false =>
              rw [bne, hname]
              exact congrArg (a.route :: ·) ih

variable {settings : Settings} {request : StagingRequest} {stack : String} {asked : List Buildpack}
  {m : StagingMessage}

theorem routes_fetched
    (h : m.Carries request (BuildpackEntry.requested asked request.defaultBuildpacks)) :
    (fetched m).map Download.route
      = (((effective asked request.defaultBuildpacks).filterMap Buildpack.admin?).filter
          fun b => b.name != "custom").map AdminBuildpack.route := by
  rw [fetched, h.buildpacks, requested_eq_map]
  exact routes_entryOf _ _

theorem buildpackOrder_eq
    (h : m.Carries request (BuildpackEntry.requested asked request.defaultBuildpacks)) :
    buildpackOrder m = String.intercalate ","
      ((effective asked request.defaultBuildpacks).map Buildpack.orderKey) := by
  rw [buildpackOrder, h.buildpacks, requested_eq_map, map_key_entryOf]

end Staging

/-! ## Recipes -/

namespace Recipe

open Staging

/-- Between the package and the cache, exactly the installed ones among these buildpacks are
fetched, one after the other. -/
def FetchesInstalled (recipe : Recipe) (buildpacks : List Buildpack) : Prop :=
  ∃ (s : Steps) (milliseconds : UInt64) (logSource : String),
    recipe.action = .timeout s.tree milliseconds logSource ∧
    s.buildpacks.map Download.route
      = (buildpacks.filterMap Buildpack.admin?).map AdminBuildpack.route

variable {settings : Settings} {request : StagingRequest} {recipe : Recipe} {stack : String}
  {asked : List Buildpack}

theorem exists_steps_of_buildpack (h : ofStaging settings request = .ok recipe)
    (hl : request.lifecycle = .buildpack stack asked) :
    ∃ s : Steps, recipe.action = .timeout s.tree settings.timeoutMs "" ∧
      s.Located request.blobstore ∧
      s.buildpacks.map Download.route
        = (((effective asked request.defaultBuildpacks).filterMap Buildpack.admin?).filter
            fun b => b.name != "custom").map AdminBuildpack.route ∧
      s.builder.valuesOf "-buildpackOrder"
        = [String.intercalate ","
            ((effective asked request.defaultBuildpacks).map Buildpack.orderKey)] := by
  obtain ⟨m, hm, haction⟩ := message_of_buildpack h hl
  have hcarries := (StagingMessage.repeats_of_forBuildpacks hm).carries
  refine ⟨_, haction, located_steps hcarries _ _, routes_fetched hcarries, ?_⟩
  show (buildpackBuilder settings request m).valuesOf "-buildpackOrder" = _
  rw [valuesOf_buildpackBuilder, ← buildpackOrder_eq hcarries]
  rfl

/-- What is fetched decides about the installed buildpacks, as the steps can be told from the
recipe. -/
theorem fetchesInstalled_iff {s : Steps} {milliseconds : UInt64} {logSource : String}
    {buildpacks : List Buildpack} (h : recipe.action = .timeout s.tree milliseconds logSource)
    (hroutes : s.buildpacks.map Download.route
      = ((buildpacks.filterMap Buildpack.admin?).filter fun b => b.name != "custom").map
        AdminBuildpack.route) :
    recipe.FetchesInstalled buildpacks
      ↔ ∀ b ∈ buildpacks.filterMap Buildpack.admin?, b.name ≠ "custom" := by
  let installed := buildpacks.filterMap Buildpack.admin?
  constructor
  · rintro ⟨t, milliseconds', logSource', ht, hall⟩ b hb
    have htree : s.tree = t.tree := (Action.timeout.inj (h.symm.trans ht)).1
    obtain rfl := Steps.tree_injective htree
    -- As many are fetched as are installed, so none has been left out.
    have hlength : (installed.filter fun b => b.name != "custom").length = installed.length := by
      have hlengths := congrArg List.length (hroutes.symm.trans hall)
      rwa [List.length_map, List.length_map] at hlengths
    have hkept := List.length_filter_eq_length_iff.1 hlength b hb
    simpa using hkept
  · intro hnames
    refine ⟨s, milliseconds, logSource, h, ?_⟩
    have hkept : installed.filter (fun b => b.name != "custom") = installed :=
      List.filter_eq_self.2 fun b hb => by simpa using hnames b hb
    rw [hroutes]
    exact congrArg _ hkept

/--
**An installed buildpack is fetched unless it is named like one that is not.** With buildpacks, the
downloads between the package and the cache are, in order, one for each installed buildpack that
counts for the request and is not named `custom`: from its location, kept under its key, into the
directory that goes by the digest of the key. The builder is told of all buildpacks that count, in
order. So everything that it will look for is fetched exactly when no installed buildpack among them
has that name.
-/
theorem ofStaging_buildpacks (h : ofStaging settings request = .ok recipe)
    (hl : request.lifecycle = .buildpack stack asked) :
    (∃ s : Steps, recipe.action = .timeout s.tree settings.timeoutMs "" ∧
      s.Located request.blobstore ∧
      s.buildpacks.map Download.route
        = (((effective asked request.defaultBuildpacks).filterMap Buildpack.admin?).filter
            fun b => b.name != "custom").map AdminBuildpack.route ∧
      s.builder.valuesOf "-buildpackOrder"
        = [String.intercalate ","
            ((effective asked request.defaultBuildpacks).map Buildpack.orderKey)]) ∧
    (recipe.FetchesInstalled (effective asked request.defaultBuildpacks)
      ↔ ∀ b ∈ (effective asked request.defaultBuildpacks).filterMap Buildpack.admin?,
        b.name ≠ "custom") := by
  obtain ⟨s, haction, -, hroutes, -⟩ := exists_steps_of_buildpack h hl
  exact ⟨exists_steps_of_buildpack h hl, fetchesInstalled_iff haction hroutes⟩

/-- A request for an installed buildpack of that name and for one with another name. -/
def namesakeRequest : StagingRequest :=
  { wiredRequest with
    lifecycle := .buildpack "cflinuxfs4" [
      .admin ⟨"custom", "own-key", "https://store/own"⟩,
      .admin ⟨"ruby", "ruby-key", "https://store/ruby"⟩] }

theorem ofStaging_buildpacks_namesake :
    ∃ recipe, ofStaging buildpackSettings namesakeRequest = .ok recipe ∧
      ∃ s : Steps, recipe.action = .timeout s.tree buildpackSettings.timeoutMs "" ∧
        s.buildpacks.map Download.route
          = [AdminBuildpack.route ⟨"ruby", "ruby-key", "https://store/ruby"⟩] ∧
        s.builder.valuesOf "-buildpackOrder" = ["own-key,ruby-key"] := by
  have hserved : ∃ recipe, ofStaging buildpackSettings namesakeRequest = .ok recipe := ⟨_, rfl⟩
  obtain ⟨recipe, h⟩ := hserved
  obtain ⟨⟨s, haction, -, hroutes, horder⟩, -⟩ := ofStaging_buildpacks h rfl
  exact ⟨recipe, h, s, haction, hroutes, horder⟩

/-- The builder may be told of an installed buildpack that is not fetched. -/
theorem not_all_fetchesInstalled :
    ¬ ∀ (settings : Settings) (request : StagingRequest) (recipe : Recipe) (stack : String)
        (asked : List Buildpack), ofStaging settings request = .ok recipe →
        request.lifecycle = .buildpack stack asked →
        recipe.FetchesInstalled (effective asked request.defaultBuildpacks) := by
  intro hall
  have hserved : ∃ recipe, ofStaging buildpackSettings namesakeRequest = .ok recipe := ⟨_, rfl⟩
  obtain ⟨recipe, h⟩ := hserved
  obtain ⟨s, haction, -, hroutes, -⟩ := exists_steps_of_buildpack h rfl
  have hinstalled := hall _ _ recipe _ _ h rfl
  have hnames := (fetchesInstalled_iff haction hroutes).1 hinstalled
  exact hnames ⟨"custom", "own-key", "https://store/own"⟩ List.mem_cons_self rfl

end Recipe

end CellRecipe
