import CellRecipe.Proofs.BuildpackDownloads

/-!
# Detection of buildpacks

Whoever asks for buildpacks gets them, and nothing is detected. Whoever asks for none leaves it to
the builder: one for buildpacks chooses among the defaults of the platform, one for cloud native
buildpacks among what it brings along. So the defaults count for one lifecycle only, and there only
when nothing was asked for.

The builder is not told what was asked for but gets the entries of its message, each with a mark of
its own. All marks of a message are the same, so that it does not matter whether one marked entry is
enough to skip detection or all have to be marked.

## Main definitions

* `StagingRequest.TakesDefaults`: the defaults of the platform count.
* `Staging.SkipsDetection`: detection is skipped when something was asked for.
* `Staging.cnbChoice`: what a builder of cloud native buildpacks is told.

## Main results

* `Recipe.ofStaging_withDefaults`: where the defaults do not count.
* `Recipe.ofStaging_detection`: what the builders of all recipes are told about detection.
-/

namespace CellRecipe

/-- The defaults of the platform count: the lifecycle is that of buildpacks, and none was asked
for. -/
def StagingRequest.TakesDefaults (request : StagingRequest) : Prop :=
  ∃ stack, request.lifecycle = .buildpack stack []

/-- Where a buildpack is found. -/
def Buildpack.location : Buildpack → String
  | .custom url => url
  | .admin b => b.url

/-! ## Where the defaults do not count -/

theorem BuildpackEntry.requested_of_ne_nil {asked : List Buildpack} (h : asked ≠ [])
    (defaults : List AdminBuildpack) : requested asked defaults = asked.map ofBuildpack := by
  cases asked with
  | nil => exact absurd rfl h
  | cons first rest => rfl

namespace Staging

variable {settings : Settings} {request : StagingRequest} {stack : String} {asked : List Buildpack}
  {m : StagingMessage}

/-- A message depends on the defaults by the entries that are made of them. -/
theorem forBuildpacks_withDefaults {defaults : List AdminBuildpack}
    (h : BuildpackEntry.requested asked defaults
      = BuildpackEntry.requested asked request.defaultBuildpacks) :
    StagingMessage.forBuildpacks { request with defaultBuildpacks := defaults } stack asked
      = StagingMessage.forBuildpacks request stack asked := by
  have hmembers : StagingMessage.buildpackMembers
      { request with defaultBuildpacks := defaults } stack asked
        = StagingMessage.buildpackMembers request stack asked := by
    show StagingMessage.members request stack (BuildpackEntry.requested asked defaults)
      = StagingMessage.members request stack _
    rw [h]
  unfold StagingMessage.forBuildpacks
  rw [hmembers]
  rfl

theorem plan_withDefaults (h : ¬ request.TakesDefaults) (defaults : List AdminBuildpack) :
    plan settings request.lifecycle { request with defaultBuildpacks := defaults }
      = plan settings request.lifecycle request := by
  cases hl : request.lifecycle with
  | buildpack stack asked =>
      have hasked : asked ≠ [] := by
        rintro rfl
        exact h ⟨stack, hl⟩
      have hentries : BuildpackEntry.requested asked defaults
          = BuildpackEntry.requested asked request.defaultBuildpacks := by
        rw [BuildpackEntry.requested_of_ne_nil hasked, BuildpackEntry.requested_of_ne_nil hasked]
      show buildpackPlan settings { request with defaultBuildpacks := defaults } stack asked
        = buildpackPlan settings request stack asked
      unfold buildpackPlan
      rw [forBuildpacks_withDefaults hentries]
      rfl
  -- Neither of the other two plans looks at the defaults.
  | docker image credentials => rfl
  | cnb stack asked credentials => rfl

/-! ## What the builders are told -/

/-- Detection is skipped exactly when something was asked for. All entries of the message say so,
one like the other, and the run has one flag that says so. -/
structure SkipsDetection (asked : List Buildpack) (m : StagingMessage) (run : Run) : Prop where
  entries : ∀ e ∈ m.buildpacks, e.skipDetect = true ↔ asked ≠ []
  agree : m.buildpacks ≠ [] →
    m.buildpacks.any BuildpackEntry.skipDetect = m.buildpacks.all BuildpackEntry.skipDetect
  flag : ∃ value, run.valuesOf "-skipDetect" = [value] ∧ (value = "true" ↔ asked ≠ []) ∧
    (value = "false" ↔ asked = [])

/-- The mark of an entry tells whether something was asked for. -/
theorem skipDetect_of_mem_requested {installed : List AdminBuildpack} {e : BuildpackEntry}
    (h : e ∈ BuildpackEntry.requested asked installed) : e.skipDetect = !asked.isEmpty := by
  rw [requested_eq_map] at h
  obtain ⟨b, -, rfl⟩ := List.mem_map.1 h
  cases b <;> rfl

/-- Some entry is marked exactly when something was asked for, also if there is no entry. -/
theorem any_skipDetect_requested (asked : List Buildpack) (installed : List AdminBuildpack) :
    (BuildpackEntry.requested asked installed).any BuildpackEntry.skipDetect = !asked.isEmpty := by
  cases asked with
  | nil =>
      refine List.any_eq_false.2 fun e he => ?_
      rw [skipDetect_of_mem_requested he]
      exact Bool.false_ne_true
  | cons first rest =>
      have hfirst : BuildpackEntry.ofBuildpack first
          ∈ BuildpackEntry.requested (first :: rest) installed := List.mem_cons_self
      exact List.any_eq_true.2 ⟨_, hfirst, skipDetect_of_mem_requested hfirst⟩

/-- Where there are entries, one of them is marked exactly when all are. -/
theorem all_skipDetect_requested {installed : List AdminBuildpack}
    (h : BuildpackEntry.requested asked installed ≠ []) :
    (BuildpackEntry.requested asked installed).all BuildpackEntry.skipDetect = !asked.isEmpty := by
  obtain ⟨e, he⟩ := List.exists_mem_of_ne_nil _ h
  cases hasked : asked.isEmpty with
  | true =>
      have hmark := skipDetect_of_mem_requested he
      rw [hasked] at hmark
      exact List.all_eq_false.2 ⟨e, he, Bool.not_eq_true _ ▸ hmark⟩
  | false =>
      refine List.all_eq_true.2 fun x hx => ?_
      have hmark := skipDetect_of_mem_requested hx
      rw [hasked] at hmark
      exact hmark

theorem skipsDetection_buildpackBuilder (settings : Settings)
    (h : m.Carries request (BuildpackEntry.requested asked request.defaultBuildpacks)) :
    SkipsDetection asked m (buildpackBuilder settings request m) := by
  have hasked : (!asked.isEmpty) = true ↔ asked ≠ [] := by
    rw [Bool.not_eq_true', List.isEmpty_eq_false_iff]
  have hflag : (buildpackBuilder settings request m).valuesOf "-skipDetect"
      = [Settings.flagText !asked.isEmpty] := by
    rw [valuesOf_buildpackBuilder, ← any_skipDetect_requested asked request.defaultBuildpacks,
      ← h.buildpacks]
    rfl
  refine ⟨?_, ?_, ⟨_, hflag, ?_, ?_⟩⟩
  · intro e he
    rw [h.buildpacks] at he
    rw [skipDetect_of_mem_requested he, hasked]
  · rw [h.buildpacks]
    intro hne
    rw [any_skipDetect_requested, all_skipDetect_requested hne]
  · rw [← hasked]
    cases !asked.isEmpty <;> decide
  · rw [← not_iff_not, ← ne_eq asked, ← hasked]
    cases !asked.isEmpty <;> decide

/-- What a builder of cloud native buildpacks is told: to detect, or where the buildpacks are that
were asked for. -/
def cnbChoice (asked : List Buildpack) : List String :=
  if asked.isEmpty then ["--auto-detect"]
  else asked.flatMap fun b => ["--buildpack", b.location]

theorem cnbArgs_eq {credentials : Option String}
    (h : m.Repeats request stack (BuildpackEntry.requested asked []) credentials asked.isEmpty) :
    cnbArgs m = cnbChoice asked := by
  rw [cnbArgs, h.buildpacks, h.autoDetect]
  cases asked with
  | nil => rfl
  | cons first rest =>
      have hlocation : ∀ b, (entryOf true b).url = b.location := by
        intro b
        cases b <;> rfl
      rw [requested_eq_map, List.flatMap_map]
      show (first :: rest).flatMap (fun b => ["--buildpack", (entryOf true b).url]) ++ [] = _
      simp only [hlocation, List.append_nil]
      rfl

end Staging

/-! ## Recipes -/

namespace Recipe

open Staging

/-- Where the defaults of the platform do not count, a recipe or a refusal is the same with any
others. -/
theorem ofStaging_withDefaults {request : StagingRequest} (h : ¬ request.TakesDefaults)
    (settings : Settings) (defaults : List AdminBuildpack) :
    ofStaging settings { request with defaultBuildpacks := defaults }
      = ofStaging settings request := by
  unfold ofStaging
  rw [plan_withDefaults h defaults]
  rfl

/-- **Detection and defaults.** The defaults of the platform count at most where the lifecycle is
that of buildpacks and none was asked for. Everywhere else a recipe or a refusal is the same with
any others. The builder of buildpacks skips detection exactly when something was asked for, and so
say all entries of its message. The builder of cloud native buildpacks is told to detect when
nothing was asked for, and otherwise where to find each buildpack that was, one after the other. -/
theorem ofStaging_detection (settings : Settings) (request : StagingRequest) :
    (¬ request.TakesDefaults → ∀ defaults,
      ofStaging settings { request with defaultBuildpacks := defaults }
        = ofStaging settings request) ∧
    ∀ recipe, ofStaging settings request = .ok recipe →
      (∀ stack asked, request.lifecycle = .buildpack stack asked →
        ∃ m run, StagingMessage.forBuildpacks request stack asked = .ok m ∧
          recipe.action.runs = [run] ∧ SkipsDetection asked m run) ∧
      ∀ stack asked credentials, request.lifecycle = .cnb stack asked credentials →
        ∃ run, recipe.action.runs = [run] ∧ run.args = cnbChoice asked := by
  refine ⟨fun h => ofStaging_withDefaults h settings, fun recipe h => ⟨?_, ?_⟩⟩
  · intro stack asked hl
    obtain ⟨m, hm, haction⟩ := message_of_buildpack h hl
    refine ⟨m, buildpackBuilder settings request m, hm, ?_,
      skipsDetection_buildpackBuilder settings (StagingMessage.repeats_of_forBuildpacks hm).carries⟩
    rw [haction]
    exact Steps.runs_tree _
  · intro stack asked credentials hl
    obtain ⟨m, hm, haction⟩ := message_of_cnb h hl
    refine ⟨cnbBuilder settings request m, ?_, cnbArgs_eq (StagingMessage.repeats_of_forCnb hm)⟩
    rw [haction]
    exact Steps.runs_tree _

/-- Settings with a bundle for the cloud native buildpacks of one stack. -/
def cnbSettings : Settings :=
  { Settings.standard with bundles := Table.empty.insert "cnb/cflinuxfs4" "cnb.tgz" }

/-- A request for two cloud native buildpacks. -/
def chosenRequest : StagingRequest :=
  { wiredRequest with
    lifecycle := .cnb "cflinuxfs4"
      [.custom "https://packs/node", .admin ⟨"ruby", "ruby-key", "https://store/ruby"⟩] none }

/-- A request for an installed buildpack, and one for two cloud native buildpacks. -/
theorem ofStaging_detection_chosen :
    (∀ defaults, ofStaging buildpackSettings { wiredRequest with defaultBuildpacks := defaults }
      = ofStaging buildpackSettings wiredRequest) ∧
    (∃ recipe, ofStaging buildpackSettings wiredRequest = .ok recipe ∧
      ∃ run, recipe.action.runs = [run] ∧ ∃ value, run.valuesOf "-skipDetect" = [value] ∧
        value = "true") ∧
    ∃ recipe, ofStaging cnbSettings chosenRequest = .ok recipe ∧
      ∃ run, recipe.action.runs = [run] ∧
        run.args = ["--buildpack", "https://packs/node", "--buildpack", "https://store/ruby"] := by
  have hdefaults : ¬ wiredRequest.TakesDefaults := by
    rintro ⟨stack, h⟩
    cases h
  have hstaged : ∃ recipe, ofStaging buildpackSettings wiredRequest = .ok recipe := ⟨_, rfl⟩
  have hchosen : ∃ recipe, ofStaging cnbSettings chosenRequest = .ok recipe := ⟨_, rfl⟩
  obtain ⟨hsame, hserved⟩ := ofStaging_detection buildpackSettings wiredRequest
  obtain ⟨staged, hstaged⟩ := hstaged
  obtain ⟨chosen, hchosen⟩ := hchosen
  obtain ⟨m, run, -, hrun, hskips⟩ := (hserved staged hstaged).1 _ _ rfl
  obtain ⟨value, hvalue, htrue, -⟩ := hskips.flag
  have hcnb := ((ofStaging_detection cnbSettings chosenRequest).2 chosen hchosen).2 _ _ _ rfl
  obtain ⟨run', hrun', hargs⟩ := hcnb
  exact ⟨hsame hdefaults,
    ⟨staged, hstaged, run, hrun, value, hvalue, htrue.2 (List.cons_ne_nil _ _)⟩,
    chosen, hchosen, run', hrun', hargs⟩

end Recipe

end CellRecipe
