import CellRecipe.Proofs.RecipeIdentity

/-!
# Callbacks tell who is done

The end of a build and the end of a task are reported to a location on the platform's own host, and
nothing but the location says whose end it is. A guid stands in it as it is, also one with slashes,
with a question mark or with the fixed parts of another location.

Two locations still differ as soon as the requests do. Before a guid stand fixed parts that differ
in one character for builds and for tasks, and behind it stands a fixed part as well, up to the flag
of a build. The two texts of the flag end differently, though not in the last character. So kind and
flag can be told from the two ends of a location, and the guid is what lies between them.

## Main definitions

* `Caller`: who is done.
* `Job`: a request whose end is reported, with its `Job.recipe`.

## Main results

* `Caller.path_inj`: the location tells the caller.
* `Job.callbackUrl_eq`: a recipe reports to the location of its caller.
* `Job.callbacks_identify`: two callbacks are the same exactly when the callers are.
-/

namespace CellRecipe

/-! ## Flags -/

/-- A flag can be told at the end of a text. -/
theorem Settings.append_flagText_inj {before before' : String} {b b' : Bool} :
    before ++ flagText b = before' ++ flagText b' ↔ before = before' ∧ b = b' := by
  have hends : ∀ s s' : String, s ++ "true" ≠ s' ++ "false" := by
    intro s s' h
    -- The last characters are the same, and the ones before them are not.
    have hlast := congrArg (fun t : String => t.toList.reverse.take 2) h
    simp at hlast
  constructor
  · intro h
    cases b <;> cases b'
    · exact ⟨(String.append_left_inj _).1 h, rfl⟩
    · exact absurd h.symm (hends before' before)
    · exact absurd h (hends before before')
    · exact ⟨(String.append_left_inj _).1 h, rfl⟩
  · rintro ⟨rfl, rfl⟩
    rfl

/-! ## Callers -/

/-- Who is done: a build, and whether the app is to be started then, or a task. -/
inductive Caller where
  | build (guid : String) (startAfterStaging : Bool)
  | task (guid : String)
  deriving DecidableEq

namespace Caller

/-- The path that a caller reports to. -/
def path : Caller → String
  | .build guid start =>
    "/internal/v3/staging/" ++ guid ++ "/build_completed?start=" ++ Settings.flagText start
  | .task guid => "/internal/v4/tasks/" ++ guid ++ "/completed"

/-- The fixed parts before a guid are those of a build or those of a task, whatever follows. -/
theorem build_append_ne_task_append (after after' : String) :
    "/internal/v3/staging/" ++ after ≠ "/internal/v4/tasks/" ++ after' := by
  intro h
  have hversion := congrArg (fun t : String => t.toList.take 12) h
  simp at hversion

theorem path_build_ne_task (guid guid' : String) (start : Bool) :
    (build guid start).path ≠ (task guid').path := by
  unfold path
  simp only [String.append_assoc]
  exact build_append_ne_task_append _ _

theorem path_build_inj {guid guid' : String} {start start' : Bool} :
    (build guid start).path = (build guid' start').path ↔ guid = guid' ∧ start = start' := by
  unfold path
  rw [Settings.append_flagText_inj, String.append_left_inj, String.append_right_inj]

theorem path_task_inj {guid guid' : String} :
    (task guid).path = (task guid').path ↔ guid = guid' := by
  unfold path
  rw [String.append_left_inj, String.append_right_inj]

/-- The path tells the caller. -/
theorem path_inj {a b : Caller} : a.path = b.path ↔ a = b := by
  cases a with
  | build guid start =>
      cases b with
      | build guid' start' => rw [path_build_inj, build.injEq]
      | task guid' => exact iff_of_false (path_build_ne_task guid guid' start) nofun
  | task guid =>
      cases b with
      | build guid' start' =>
          exact iff_of_false (path_build_ne_task guid' guid start').symm nofun
      | task guid' => rw [path_task_inj, task.injEq]

end Caller

/-- Paths on the same host are the same exactly when the locations are. -/
theorem Settings.internalUrl_inj {settings : Settings} {path path' : String} :
    settings.internalUrl path = settings.internalUrl path' ↔ path = path' :=
  String.append_right_inj _

/-! ## Jobs -/

/-- A request whose end is reported: to stage a package, or to run a task. The end of a process is
not. -/
inductive Job where
  | build (request : StagingRequest)
  | task (request : RunRequest) (once : ∃ name, request.unit = .task name)

namespace Job

/-- Who reports the end. -/
def caller : Job → Caller
  | .build request => .build request.guid request.startAfterStaging
  | .task request _ => .task request.guid

/-- The recipe of the request. -/
def recipe (settings : Settings) : Job → Except Refusal Recipe
  | .build request => Recipe.ofStaging settings request
  | .task request _ => Recipe.ofRun settings request

variable {settings : Settings} {a b : Job} {r r' : Recipe}

theorem callbackUrl_unitPart {request : RunRequest} (once : ∃ name, request.unit = .task name) :
    (Recipe.unitPart settings request).callbackUrl
      = some (settings.internalUrl (Caller.task request.guid).path) := by
  obtain ⟨name, hname⟩ := once
  unfold Recipe.unitPart
  rw [hname]
  rfl

/-- Whatever else is in a recipe, it reports to the location of its caller. -/
theorem callbackUrl_eq (h : a.recipe settings = .ok r) :
    r.callbackUrl = some (settings.internalUrl a.caller.path) := by
  cases a with
  | build request =>
      obtain ⟨plan, rules, files, -, -, -, rfl⟩ := Recipe.ofStaging_eq_ok.1 h
      rfl
  | task request once =>
      obtain ⟨plan, rootFs, rules, files, -, -, -, -, rfl⟩ := Recipe.ofRun_eq_ok.1 h
      exact callbackUrl_unitPart once

/-- **Callbacks tell who is done.** Two recipes to stage packages or to run tasks have a callback
each, and the two are the same exactly when both are for builds with one guid that both start their
app or both do not, or both are for tasks with one guid. The guids may be any texts. -/
theorem callbacks_identify (ha : a.recipe settings = .ok r) (hb : b.recipe settings = .ok r') :
    (∃ url, r.callbackUrl = some url) ∧ (∃ url, r'.callbackUrl = some url) ∧
      (r.callbackUrl = r'.callbackUrl ↔ a.caller = b.caller) := by
  have hurl := callbackUrl_eq ha
  have hurl' := callbackUrl_eq hb
  refine ⟨⟨_, hurl⟩, ⟨_, hurl'⟩, ?_⟩
  rw [hurl, hurl', Option.some.injEq, Settings.internalUrl_inj, Caller.path_inj]

/-- A build whose guid has the end of another callback in it. -/
def splicedBuild : Job :=
  .build
    { Recipe.wiredRequest with
      guid := "b/build_completed?start=true"
      startAfterStaging := false }

/-- The build with that callback. -/
def plainBuild : Job :=
  .build { Recipe.wiredRequest with guid := "b", startAfterStaging := true }

/-- A task whose guid has the path of that build in it. -/
def splicedTask : Job :=
  .task
    { Recipe.checkedRun with
      unit := .task "migrate"
      guid := "../../v3/staging/b" }
    ⟨"migrate", rfl⟩

/-- The three have three callbacks. -/
theorem callbacks_identify_spliced :
    ∃ r r' r'', splicedBuild.recipe Recipe.buildpackSettings = .ok r ∧
      plainBuild.recipe Recipe.buildpackSettings = .ok r' ∧
      splicedTask.recipe Recipe.buildpackSettings = .ok r'' ∧
      r.callbackUrl ≠ r'.callbackUrl ∧ r''.callbackUrl ≠ r'.callbackUrl := by
  have hspliced : ∃ r, splicedBuild.recipe Recipe.buildpackSettings = .ok r := ⟨_, rfl⟩
  have hplain : ∃ r, plainBuild.recipe Recipe.buildpackSettings = .ok r := ⟨_, rfl⟩
  have htask : ∃ r, splicedTask.recipe Recipe.buildpackSettings = .ok r := ⟨_, rfl⟩
  obtain ⟨r, hr⟩ := hspliced
  obtain ⟨r', hr'⟩ := hplain
  obtain ⟨r'', hr''⟩ := htask
  obtain ⟨-, -, hbuilds⟩ := callbacks_identify hr hr'
  obtain ⟨-, -, hkinds⟩ := callbacks_identify hr'' hr'
  refine ⟨r, r', r'', hr, hr', hr'', ?_, ?_⟩
  · intro h
    exact absurd (hbuilds.1 h) (by decide)
  · intro h
    exact absurd (hkinds.1 h) (by decide)

end Job

end CellRecipe
