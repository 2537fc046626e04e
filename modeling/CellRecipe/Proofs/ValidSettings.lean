import CellRecipe.Proofs.StagingWiring
import CellRecipe.Settings.File

/-!
# Valid settings and the time limit of staging

Settings come from the defaults, from a file and from the environment, each layer with readers and
ranges of its own. Whatever the layers give, what is loaded has passed the same validation in the
end, so no recipe is built under settings that are out of bounds.

The time limit of a recipe is counted in milliseconds, in a word that cannot hold every number of
seconds a thousand times over; where the product does not fit, the greatest word stands for it.
Validation excludes such numbers, which is why the limit of a recipe is exact. Without validation it
still never falls when the number of seconds grows.

## Main definitions

* `Settings.Valid`: all bounds, said apart from the checks.
* `Settings.Base`: the settings before the environment counts.
* `Recipe.StopsAfter`: the whole action of a recipe stands under a time limit.

## Main results

* `Settings.fault?_eq_none_iff`: validation accepts what is within the bounds.
* `Settings.load_eq_ok`: what is loaded of the layers.
* `Settings.toNat_timeoutMs`: the limit in milliseconds, with or without validation.
* `Recipe.load_bounds_staging`: no invalid settings reach a recipe.
-/

namespace CellRecipe

open Outcome

/-! ## Bounds -/

namespace Settings

/-- The settings are within their bounds: staging takes from one second to a day, the host has a
name, the port is one, and the limit of processes is not negative. -/
structure Valid (s : Settings) : Prop where
  oneSecond : 1 ≤ s.timeoutSeconds.toNat
  oneDay : s.timeoutSeconds.toNat ≤ 86400
  named : ∃ c ∈ s.hostname.toList, Text.isBlank c = false
  port : 1 ≤ s.tlsPort.toNat
  processes : 0 ≤ s.pidLimit.toInt

theorem one_le_timeoutSeconds_iff (s : Settings) :
    1 ≤ s.timeoutSeconds.toNat ↔ ¬ s.timeoutSeconds = 0 := by
  rw [← UInt64.toNat_inj]
  have hzero : (0 : UInt64).toNat = 0 := rfl
  omega

theorem timeoutSeconds_le_iff (s : Settings) :
    s.timeoutSeconds.toNat ≤ 86400 ↔ ¬ s.timeoutSeconds > maxTimeoutSeconds := by
  have hday : maxTimeoutSeconds.toNat = 86400 := rfl
  rw [gt_iff_lt, UInt64.lt_iff_toNat_lt, hday]
  omega

theorem exists_not_isBlank_iff (cs : List Char) :
    (∃ c ∈ cs, Text.isBlank c = false) ↔ ¬ cs.all Text.isBlank = true := by
  simp

theorem one_le_tlsPort_iff (s : Settings) : 1 ≤ s.tlsPort.toNat ↔ ¬ s.tlsPort = 0 := by
  rw [← UInt16.toNat_inj]
  have hzero : (0 : UInt16).toNat = 0 := rfl
  omega

theorem pidLimit_nonneg_iff (s : Settings) : 0 ≤ s.pidLimit.toInt ↔ ¬ s.pidLimit < 0 := by
  have hzero : (0 : Int32).toInt = 0 := rfl
  rw [Int32.lt_iff_toInt_lt, hzero]
  omega

/-- Validation finds no fault exactly when the settings are within their bounds. -/
theorem fault?_eq_none_iff {s : Settings} : s.fault? = none ↔ s.Valid := by
  have hvalid : s.Valid ↔ (¬ s.timeoutSeconds = 0) ∧ (¬ s.timeoutSeconds > maxTimeoutSeconds) ∧
      (¬ s.hostname.toList.all Text.isBlank = true) ∧ (¬ s.tlsPort = 0) ∧ ¬ s.pidLimit < 0 := by
    rw [← one_le_timeoutSeconds_iff, ← timeoutSeconds_le_iff, ← exists_not_isBlank_iff,
      ← one_le_tlsPort_iff, ← pidLimit_nonneg_iff]
    constructor
    · intro h
      exact ⟨h.oneSecond, h.oneDay, h.named, h.port, h.processes⟩
    · intro h
      obtain ⟨hsecond, hday, hnamed, hport, hprocesses⟩ := h
      exact ⟨hsecond, hday, hnamed, hport, hprocesses⟩
  rw [hvalid]
  unfold fault?
  by_cases hsecond : s.timeoutSeconds = 0
  · simp [hsecond]
  by_cases hday : s.timeoutSeconds > maxTimeoutSeconds
  · simp [hsecond, hday]
  by_cases hblank : s.hostname.toList.all Text.isBlank = true
  · simp only [if_neg hsecond, if_neg hday, if_pos hblank]
    simp [hblank]
  by_cases hport : s.tlsPort = 0
  · simp only [if_neg hsecond, if_neg hday, if_neg hblank, if_pos hport]
    simp [hport]
  by_cases hprocesses : s.pidLimit < 0
  · simp only [if_neg hsecond, if_neg hday, if_neg hblank, if_neg hport, if_pos hprocesses]
    simp [hprocesses]
  simp only [if_neg hsecond, if_neg hday, if_neg hblank, if_neg hport, if_neg hprocesses]
  exact ⟨fun _ => ⟨hsecond, hday, hblank, hport, hprocesses⟩, fun _ => trivial⟩

/-! ## Loading -/

theorem validated_eq_ok {s t : Settings} : s.validated = .ok t ↔ s.Valid ∧ s = t := by
  rw [← fault?_eq_none_iff]
  unfold validated
  cases s.fault? <;> simp

/-- What is out of bounds is refused for a fault of its own. -/
theorem exists_validated_eq_error {s : Settings} :
    (∃ fault, s.validated = .error (.invalid fault)) ↔ ¬ s.Valid := by
  rw [← fault?_eq_none_iff]
  unfold validated
  cases s.fault? <;> simp

/-- The settings before the environment counts: those of a file, or the defaults if there is
none. -/
inductive Base (store : FileStore) : Option String → Settings → Prop
  | standard : Base store none standard
  | file {path text : String} {s : Settings} (content : store.read path = .ok text)
      (reads : ofYaml? text = some s) : Base store (some path) s

theorem ofFile_eq_ok {store : FileStore} {path : String} {s : Settings} :
    ofFile store path = .ok s ↔ Base store (some path) s := by
  unfold ofFile
  constructor
  · intro h
    cases hread : store.read path with
    | error fault => simp [hread] at h
    | ok text =>
        cases hyaml : ofYaml? text with
        | none => simp [hread, hyaml] at h
        | some found =>
            simp only [hread, hyaml, Except.ok.injEq] at h
            subst h
            exact .file hread hyaml
  · intro h
    cases h with
    | file content reads => simp [content, reads]

/-- What is loaded are the settings with the overrides of the environment, if they are within their
bounds; they are validated last, after all layers. -/
theorem load_eq_ok {environment : Environment} {store : FileStore} {path : Option String}
    {s : Settings} :
    load environment store path = .ok s ↔
      ∃ base, Base store path base ∧ (base.override environment).Valid ∧
        base.override environment = s := by
  cases path with
  | none =>
      show (standard.override environment).validated = .ok s ↔ _
      rw [validated_eq_ok]
      constructor
      · intro h
        exact ⟨standard, .standard, h⟩
      · intro h
        obtain ⟨base, hbase, h⟩ := h
        cases hbase
        exact h
  | some path =>
      show (ofFile store path >>= fun base => (base.override environment).validated) = .ok s ↔ _
      rw [bind_eq_ok]
      simp only [ofFile_eq_ok, validated_eq_ok]

/-! ## The time limit -/

/-- The time limit in milliseconds is a thousand times the seconds, up to the greatest word. -/
theorem toNat_timeoutMs (s : Settings) :
    s.timeoutMs.toNat = min (1000 * s.timeoutSeconds.toNat) (UInt64.size - 1) := by
  have hsize : UInt64.size = 18446744073709551616 := rfl
  have hfits : min (s.timeoutSeconds.toNat * 1000) (UInt64.size - 1) < UInt64.size := by omega
  unfold timeoutMs
  rw [UInt64.toNat_ofNat_of_lt' hfits]
  omega

/-- More seconds never make a shorter time limit. -/
theorem timeoutMs_mono {s t : Settings} (h : s.timeoutSeconds ≤ t.timeoutSeconds) :
    s.timeoutMs ≤ t.timeoutMs := by
  rw [UInt64.le_iff_toNat_le] at h ⊢
  rw [toNat_timeoutMs, toNat_timeoutMs]
  omega

/-- Validation keeps the time limit away from the greatest word, so it is exact. -/
theorem Valid.toNat_timeoutMs {s : Settings} (h : s.Valid) :
    s.timeoutMs.toNat = 1000 * s.timeoutSeconds.toNat := by
  have hday := h.oneDay
  have hsize : UInt64.size = 18446744073709551616 := rfl
  rw [Settings.toNat_timeoutMs]
  omega

end Settings

/-! ## Recipes -/

namespace Recipe

/-- The whole action of the recipe ends after so many milliseconds. -/
def StopsAfter (recipe : Recipe) (milliseconds : Nat) : Prop :=
  ∃ inner limit logSource, recipe.action = .timeout inner limit logSource ∧
    limit.toNat = milliseconds

variable {settings : Settings} {request : StagingRequest} {recipe : Recipe}

theorem stopsAfter_iff {milliseconds : Nat} :
    recipe.StopsAfter milliseconds
      ↔ ∃ limit, recipe.action.timeLimit? = some limit ∧ limit.toNat = milliseconds := by
  simp only [Action.timeLimit?_eq_some_iff]
  constructor
  · rintro ⟨inner, limit, logSource, haction, hlimit⟩
    exact ⟨limit, ⟨inner, logSource, haction⟩, hlimit⟩
  · rintro ⟨limit, ⟨inner, logSource, haction⟩, hlimit⟩
    exact ⟨inner, limit, logSource, haction, hlimit⟩

/-- A recipe to stage has its time limit and its limit of processes from the settings. -/
theorem limits_of_ofStaging_eq_ok (h : ofStaging settings request = .ok recipe) :
    recipe.StopsAfter settings.timeoutMs.toNat ∧ recipe.maxPids = settings.pidLimit := by
  obtain ⟨plan, rules, files, -, -, -, rfl⟩ := ofStaging_eq_ok.1 h
  exact ⟨stopsAfter_iff.2 ⟨settings.timeoutMs, rfl, rfl⟩, rfl⟩

/-- **No invalid settings reach a recipe.** What is loaded from a file and an environment is within
all bounds. A recipe to stage under such settings stops after exactly as many milliseconds as the
settings have seconds, a thousand times over, which is from a second to a day, and its limit of
processes is not negative. What is out of bounds is refused. Without validation the time limit is
the product as far as it fits, and it never falls when the seconds grow. -/
theorem load_bounds_staging :
    (∀ environment store path settings, Settings.load environment store path = .ok settings →
      settings.Valid ∧ ∀ request recipe, ofStaging settings request = .ok recipe →
        recipe.StopsAfter (1000 * settings.timeoutSeconds.toNat) ∧
        1000 ≤ 1000 * settings.timeoutSeconds.toNat ∧
        1000 * settings.timeoutSeconds.toNat ≤ 86400000 ∧
        0 ≤ recipe.maxPids.toInt) ∧
    (∀ settings : Settings,
      (settings.validated = .ok settings ↔ settings.Valid) ∧
      ((∃ fault, settings.validated = .error (.invalid fault)) ↔ ¬ settings.Valid)) ∧
    (∀ settings request recipe, ofStaging settings request = .ok recipe →
      recipe.StopsAfter (min (1000 * settings.timeoutSeconds.toNat) (UInt64.size - 1))) ∧
    ∀ s t : Settings, s.timeoutSeconds ≤ t.timeoutSeconds → s.timeoutMs ≤ t.timeoutMs := by
  refine ⟨?_, ?_, ?_, fun s t => Settings.timeoutMs_mono⟩
  · intro environment store path settings hload
    obtain ⟨base, -, hvalid, rfl⟩ := Settings.load_eq_ok.1 hload
    refine ⟨hvalid, fun request recipe h => ?_⟩
    obtain ⟨hstops, hpids⟩ := limits_of_ofStaging_eq_ok h
    rw [hvalid.toNat_timeoutMs] at hstops
    have hsecond := hvalid.oneSecond
    have hday := hvalid.oneDay
    refine ⟨hstops, by omega, by omega, ?_⟩
    rw [hpids]
    exact hvalid.processes
  · intro settings
    refine ⟨?_, Settings.exists_validated_eq_error⟩
    rw [Settings.validated_eq_ok]
    simp
  · intro settings request recipe h
    rw [← Settings.toNat_timeoutMs]
    exact (limits_of_ofStaging_eq_ok h).1

/-- An environment that gives staging a day. -/
def dayEnvironment : Environment := fun name =>
  if name = "RECIPE_STAGING_TIMEOUT" then some "86400" else none

/-- A store with settings in a file, whose keys are all marked as such. -/
def settingsStore : FileStore :=
  .ofList [("recipe.yaml",
    "? lifecycle_bundles\n: ? buildpack/cflinuxfs4\n  : lifecycle.tgz\n? pid_limit\n: 0\n")]

/-- The settings that both give together. -/
def daySettings : Settings :=
  { buildpackSettings with timeoutSeconds := 86400, pidLimit := 0 }

/-- Settings that nobody has validated. -/
def endlessSettings : Settings := { buildpackSettings with timeoutSeconds := 18446744073709551615 }

/-- A day from the environment over a file, and a time limit that does not fit into a word. -/
theorem load_bounds_staging_day :
    (Settings.load dayEnvironment settingsStore (some "recipe.yaml") = .ok daySettings ∧
      daySettings.Valid ∧
      ∃ recipe, ofStaging daySettings wiredRequest = .ok recipe ∧ recipe.StopsAfter 86400000 ∧
        0 ≤ recipe.maxPids.toInt) ∧
    (∃ recipe, ofStaging endlessSettings wiredRequest = .ok recipe ∧
      recipe.StopsAfter 18446744073709551615) ∧
    daySettings.timeoutSeconds ≤ endlessSettings.timeoutSeconds ∧
    daySettings.timeoutMs ≤ endlessSettings.timeoutMs := by
  obtain ⟨hloaded, -, hunvalidated, hmono⟩ := load_bounds_staging
  have hload : Settings.load dayEnvironment settingsStore (some "recipe.yaml") = .ok daySettings :=
    by decide +kernel
  have hday : ∃ recipe, ofStaging daySettings wiredRequest = .ok recipe := ⟨_, rfl⟩
  have hendless : ∃ recipe, ofStaging endlessSettings wiredRequest = .ok recipe := ⟨_, rfl⟩
  have hle : daySettings.timeoutSeconds ≤ endlessSettings.timeoutSeconds := by decide
  obtain ⟨hvalid, hrecipes⟩ := hloaded _ _ _ _ hload
  obtain ⟨staged, hday⟩ := hday
  obtain ⟨endless, hendless⟩ := hendless
  obtain ⟨hstops, -, -, hpids⟩ := hrecipes _ staged hday
  exact ⟨⟨hload, hvalid, staged, hday, hstops, hpids⟩,
    ⟨endless, hendless, hunvalidated _ _ _ hendless⟩, hle, hmono _ _ hle⟩

end Recipe

end CellRecipe
