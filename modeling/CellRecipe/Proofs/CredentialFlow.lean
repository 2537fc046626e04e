import CellRecipe.Proofs.BindingFiles
import CellRecipe.Proofs.RunSelection
import CellRecipe.Proofs.StagingWiring

/-!
# Where credentials go

A request may hold credentials for registries, those for an image and those of service bindings.
Each of them has one place in a recipe where it belongs, and may show nowhere else, neither in
another part of a recipe nor in a refusal. So two requests that differ in such credentials alone get
the same refusal, or recipes that differ in that one place alone.

The place of credentials that a builder needs lies deep in the tree of actions, among the variables
or the arguments of the builder. Blanking makes such recipes equal: a function takes the credentials
out of a run, and is applied to every run of the tree.

## Main definitions

* `Action.mapRuns`, `Recipe.mapRuns`: a change made to every run.
* `Run.blankRegistries`, `Run.blankImageLogin`: a run without the credentials that it ends in.
* `Recipe.Apart`: two recipes that are the same once their builders are blanked.
* `Recipe.CredentialsConfined`: all credentials stay where they belong.

## Main results

* `Recipe.ofStaging_cnb_apart`, `Recipe.ofStaging_docker_apart`: credentials of a builder.
* `Recipe.ofRun_docker_alike`: credentials of an image that runs.
* `Recipe.ofRun_of_features_none`: credentials of bindings.
* `Recipe.credentials_confined`: credentials flow only where they belong.
-/

namespace CellRecipe

open Outcome

/-! ## A change made to every run -/

namespace Action

mutual

/-- The tree with a change made to each of its runs. -/
def mapRuns (f : Run → Run) : Action → Action
  | .download d => .download d
  | .upload u => .upload u
  | .run r => .run (f r)
  | .timeout a milliseconds logSource => .timeout (a.mapRuns f) milliseconds logSource
  | .progress a startMessage successMessage failurePrefix =>
    .progress (a.mapRuns f) startMessage successMessage failurePrefix
  | .attempt a => .attempt (a.mapRuns f)
  | .serial as => .serial (mapRunsIn f as)
  | .parallel as => .parallel (mapRunsIn f as)

/-- Several trees with a change made to each of their runs. -/
def mapRunsIn (f : Run → Run) : List Action → List Action
  | [] => []
  | a :: rest => a.mapRuns f :: mapRunsIn f rest

end

end Action

namespace Plan

/-- The plan with a change made to each of its runs. -/
def mapRuns (f : Run → Run) (p : Plan) : Plan := { p with action := p.action.mapRuns f }

/-- A bundle brings no runs. -/
theorem mapRuns_bundled (f : Run → Run) (settings : Settings) (b : Bundle) (bundle : String)
    (p : Plan) : (p.bundled settings b bundle).mapRuns f
      = (p.mapRuns f).bundled settings b bundle := by
  unfold bundled
  cases settings.declarativeAssets <;> rfl

/-- Plans stay alike when they get the same bundle. -/
theorem withBundle_alike {R : Plan → Plan → Prop} {settings : Settings} {b : Bundle} {p q : Plan}
    (h : ∀ bundle, R (p.bundled settings b bundle) (q.bundled settings b bundle)) :
    Alike R (p.withBundle settings b) (q.withBundle settings b) := by
  unfold withBundle
  cases settings.bundle? b.key with
  | none => exact .refused _
  | some bundle => exact .served (h bundle)

end Plan

/-- The recipe with a change made to each of its runs. -/
def Recipe.mapRuns (f : Run → Run) (r : Recipe) : Recipe := { r with action := r.action.mapRuns f }

/-! ## Blanking -/

/-- The variable with credentials for registries. -/
@[match_pattern]
def EnvironmentVariable.registries (credentials : String) : EnvironmentVariable :=
  ⟨"CNB_REGISTRY_CREDS", credentials⟩

namespace Run

/-- The last variable of the run has credentials for registries. -/
def EndsInRegistries (credentials : String) (r : Run) : Prop :=
  ∃ before, r.env = before ++ [.registries credentials]

/-- The last arguments of the run are the credentials of an image. -/
def EndsInImageLogin (credentials : ImageCredentials) (r : Run) : Prop :=
  ∃ before, r.args
    = before ++ ["-dockerUser", credentials.username, "-dockerPassword", credentials.password]

/-- The run with its last variable emptied, if that has credentials for registries. -/
def blankRegistries (r : Run) : Run :=
  match r.env.reverse with
  | .registries _ :: before => { r with env := before.reverse ++ [.registries ""] }
  | _ => r

/-- The run with the credentials among its last arguments emptied, if there are any. -/
def blankImageLogin (r : Run) : Run :=
  match r.args.reverse with
  | _ :: "-dockerPassword" :: _ :: "-dockerUser" :: before =>
    { r with args := before.reverse ++ ["-dockerUser", "", "-dockerPassword", ""] }
  | _ => r

/-- Runs that differ in the credentials for registries alone are the same without them. -/
theorem blankRegistries_eq {r s : Run} {before : List EnvironmentVariable} {c c' : String}
    (hr : r.env = before ++ [.registries c])
    (hs : { r with env := before ++ [.registries c'] } = s) :
    r.blankRegistries = s.blankRegistries := by
  subst hs
  simp [blankRegistries, EnvironmentVariable.registries, hr]

/-- Runs that differ in the credentials of an image alone are the same without them. -/
theorem blankImageLogin_eq {r s : Run} {before : List String} {c c' : ImageCredentials}
    (hr : r.args = before ++ ["-dockerUser", c.username, "-dockerPassword", c.password])
    (hs : { r with args :=
      before ++ ["-dockerUser", c'.username, "-dockerPassword", c'.password] } = s) :
    r.blankImageLogin = s.blankImageLogin := by
  subst hs
  simp [blankImageLogin, hr]

end Run

/-! ## Plans and recipes that are the same once blanked -/

section Apart

variable (blank : Run → Run) (has has' : Run → Prop)

/-- Two plans with one run each, which have their credentials and are the same once blanked. -/
structure Plan.Apart (p q : Plan) : Prop where
  first : ∃ run, p.action.runs = [run] ∧ has run
  second : ∃ run, q.action.runs = [run] ∧ has' run
  blanked : p.mapRuns blank = q.mapRuns blank

/-- Two recipes with one run each, which have their credentials and are the same once blanked. -/
structure Recipe.Apart (r s : Recipe) : Prop where
  first : ∃ run, r.action.runs = [run] ∧ has run
  second : ∃ run, s.action.runs = [run] ∧ has' run
  blanked : r.mapRuns blank = s.mapRuns blank

end Apart

section Staging

variable {settings : Settings} {blank : Run → Run} {has has' : Run → Prop}

/-- Plans stay apart when they get the same bundle. -/
theorem Plan.Apart.bundled {p q : Plan} (h : p.Apart blank has has' q) (settings : Settings)
    (b : Bundle) (bundle : String) :
    (p.bundled settings b bundle).Apart blank has has' (q.bundled settings b bundle) where
  first := by
    rw [action_bundled]
    exact h.first
  second := by
    rw [action_bundled]
    exact h.second
  blanked := by
    rw [mapRuns_bundled, mapRuns_bundled, h.blanked]

/-- Requests that are staged apart and differ in their lifecycles alone get recipes that are apart:
nothing else in a recipe looks at the lifecycle, but for the root filesystem. -/
theorem Recipe.ofStaging_apart {request : StagingRequest} {l l' : Lifecycle}
    (root : Staging.rootFs settings l = Staging.rootFs settings l')
    (plans : Alike (Plan.Apart blank has has')
      (Staging.plan settings l { request with lifecycle := l })
      (Staging.plan settings l' { request with lifecycle := l' })) :
    Alike (Recipe.Apart blank has has')
      (ofStaging settings { request with lifecycle := l })
      (ofStaging settings { request with lifecycle := l' }) := by
  refine plans.bind fun p q h => ?_
  have hstaged : ∀ rules files,
      staged settings { request with lifecycle := l } (p.mapRuns blank) rules files
        = staged settings { request with lifecycle := l' } (q.mapRuns blank) rules files := by
    intro rules files
    unfold staged
    rw [h.blanked, root]
    rfl
  refine .bind_same _ fun rules => .bind_same _ fun files => .served ?_
  exact ⟨h.first, h.second, hstaged rules files⟩

end Staging

namespace StagingMessage

/-- Messages about the same request are refused alike. -/
theorem located_alike {R : StagingMessage → StagingMessage → Prop} {request : StagingRequest}
    {meant meant' : String → String → String → StagingMessage}
    (h : ∀ package cache droplet, R (meant package cache droplet) (meant' package cache droplet)) :
    Alike R (located request meant) (located request meant') := by
  unfold located
  cases request.blobstore.packageDownload with
  | none => exact .refused _
  | some package =>
      cases request.blobstore.cacheUpload with
      | none => exact .refused _
      | some cache =>
          cases request.blobstore.dropletUpload with
          | none => exact .refused _
          | some droplet => exact .served (h package cache droplet)

/-- The credentials in a message have no part in whether it is refused. -/
theorem forCnb_alike (request : StagingRequest) (stack : String) (asked : List Buildpack)
    (c c' : String) :
    Alike (fun m m' => m.credentials = some c ∧ m' = { m with credentials := some c' })
      (forCnb request stack asked (some c)) (forCnb request stack asked (some c')) := by
  rw [forCnb_eq, forCnb_eq]
  exact located_alike fun package cache droplet => ⟨rfl, rfl⟩

end StagingMessage

namespace Staging

theorem mapRuns_pipeline (f : Run → Run) (m : StagingMessage) (downloads : List Action)
    (builder : Run) : (pipeline m downloads builder).mapRuns f
      = pipeline m (Action.mapRunsIn f downloads) (f builder) := rfl

theorem runs_cnbBase (settings : Settings) (request : StagingRequest) (stack : String)
    (m : StagingMessage) :
    (cnbBase settings request stack m).action.runs = [cnbBuilder settings request m] := by
  rw [action_cnbBase, Steps.runs_tree]
  rfl

/-- The credentials in a message show in the last variable of the builder. -/
theorem cnbBase_apart (settings : Settings) (request : StagingRequest) (stack : String)
    {m : StagingMessage} {c : String} (hm : m.credentials = some c) (c' : String) :
    (cnbBase settings request stack m).Apart Run.blankRegistries (Run.EndsInRegistries c)
      (Run.EndsInRegistries c')
      (cnbBase settings request stack { m with credentials := some c' }) := by
  have henv : (cnbBuilder settings request m).env
      = request.environment ++ [.registries c] := by
    show request.environment ++ credentialsEnvironment m.credentials = _
    rw [hm]
    rfl
  have hbuilder : (cnbBuilder settings request m).blankRegistries
      = (cnbBuilder settings request { m with credentials := some c' }).blankRegistries :=
    Run.blankRegistries_eq henv rfl
  refine ⟨⟨_, runs_cnbBase settings request stack m, _, henv⟩,
    ⟨_, runs_cnbBase settings request stack _, request.environment, rfl⟩, ?_⟩
  unfold Plan.mapRuns cnbBase
  rw [mapRuns_pipeline, mapRuns_pipeline, hbuilder]
  rfl

/-- The credentials in a message about an image show in the last arguments of the builder. -/
theorem imageBase_apart (settings : Settings) (request : StagingRequest) (image : String)
    (c c' : ImageCredentials) :
    (imageBase settings request image (some c)).Apart Run.blankImageLogin
      (Run.EndsInImageLogin c) (Run.EndsInImageLogin c')
      (imageBase settings request image (some c')) := by
  have hbuilder : (imageBuilder settings request image (some c)).blankImageLogin
      = (imageBuilder settings request image (some c')).blankImageLogin :=
    Run.blankImageLogin_eq rfl rfl
  refine ⟨⟨_, rfl, _, rfl⟩, ⟨_, rfl, _, rfl⟩, ?_⟩
  show ({ action := announced (.run _) } : Plan) = { action := announced (.run _) }
  rw [hbuilder]

theorem cnbPlan_alike (settings : Settings) (request : StagingRequest) (stack : String)
    (asked : List Buildpack) (c c' : String) :
    Alike (Plan.Apart Run.blankRegistries (Run.EndsInRegistries c) (Run.EndsInRegistries c'))
      (cnbPlan settings request stack asked (some c))
      (cnbPlan settings request stack asked (some c')) := by
  have hmessages := StagingMessage.forCnb_alike request stack asked c c'
  refine hmessages.bind ?_
  intro m m' h
  obtain ⟨hm, rfl⟩ := h
  have hplans := cnbBase_apart settings request stack hm c'
  exact Plan.withBundle_alike fun bundle => hplans.bundled settings _ bundle

theorem imagePlan_alike (settings : Settings) (request : StagingRequest) (image : Option String)
    (c c' : ImageCredentials) :
    Alike (Plan.Apart Run.blankImageLogin (Run.EndsInImageLogin c) (Run.EndsInImageLogin c'))
      (imagePlan settings request image (some c)) (imagePlan settings request image (some c')) := by
  unfold imagePlan
  rw [checkedImage_eq, checkedImage_eq]
  refine .bind_same _ fun reference => ?_
  have hplans := imageBase_apart settings request reference c c'
  exact Plan.withBundle_alike fun bundle => hplans.bundled settings _ bundle

/-- No plan of staging has credentials for the image of its container. -/
theorem imageCredentials_of_plan_eq_ok {settings : Settings} {l : Lifecycle}
    {request : StagingRequest} {p : Plan} (h : plan settings l request = .ok p) :
    p.imageCredentials = none := by
  cases l with
  | buildpack stack asked =>
      obtain ⟨m, bundle, -, rfl⟩ := message_of_buildpackPlan_eq_ok h
      exact Plan.imageCredentials_bundled _ _ _ _
  | docker image credentials =>
      obtain ⟨reference, bundle, rfl⟩ := bundled_of_imagePlan_eq_ok h
      exact Plan.imageCredentials_bundled _ _ _ _
  | cnb stack asked credentials =>
      obtain ⟨m, bundle, -, rfl⟩ := message_of_cnbPlan_eq_ok h
      exact Plan.imageCredentials_bundled _ _ _ _

end Staging

/-! ## Images that run -/

/-- Credentials of an image have no part in a plan but for themselves. -/
theorem Launch.imagePlan_alike (settings : Settings) (request : RunRequest)
    (c c' : Option ImageCredentials) (d : Droplet) (command : String) :
    Alike (fun p q => { p with imageCredentials := q.imageCredentials } = q)
      (imagePlan settings request c d command) (imagePlan settings request c' d command) := by
  refine Plan.withBundle_alike fun bundle => ?_
  unfold Plan.bundled
  cases settings.declarativeAssets <;> rfl

/-! ## Bindings without files -/

/-- Two bindings that are the same but for their credentials. -/
def ServiceBinding.SameButCredentials (b c : ServiceBinding) : Prop :=
  { b with credentials := c.credentials } = c

/-- Volume mounts have nothing of the credentials. -/
theorem VolumeMount.ofBindings_eq {bindings others : List ServiceBinding}
    (h : List.Forall₂ ServiceBinding.SameButCredentials bindings others) :
    ofBindings others = ofBindings bindings := by
  induction h with
  | nil => rfl
  | cons hb _ ih =>
      unfold ofBindings at ih ⊢
      rw [List.flatMap_cons, List.flatMap_cons, ih, ← hb]

/-- The workload with other bindings. -/
def Workload.withBindings (w : Workload) (bindings : List ServiceBinding) : Workload :=
  { w with bindings := bindings }

/-- Without a feature for files there are none, whatever the bindings. -/
theorem Workload.mountedFiles_withBindings {w : Workload} (h : w.features = .none)
    (bindings : List ServiceBinding) : (w.withBindings bindings).mountedFiles = w.mountedFiles := by
  have hfeatures : (w.withBindings bindings).features = .none := h
  unfold mountedFiles bindingFiles
  rw [hfeatures, h]
  rfl

/-! ## Recipes -/

namespace Recipe

variable {settings : Settings}

theorem ofStaging_cnb_apart (settings : Settings) (request : StagingRequest) (stack : String)
    (asked : List Buildpack) (c c' : String) :
    Alike (Apart Run.blankRegistries (Run.EndsInRegistries c) (Run.EndsInRegistries c'))
      (ofStaging settings { request with lifecycle := .cnb stack asked (some c) })
      (ofStaging settings { request with lifecycle := .cnb stack asked (some c') }) :=
  ofStaging_apart rfl (Staging.cnbPlan_alike settings request stack asked c c')

theorem ofStaging_docker_apart (settings : Settings) (request : StagingRequest)
    (image : Option String) (c c' : ImageCredentials) :
    Alike (Apart Run.blankImageLogin (Run.EndsInImageLogin c) (Run.EndsInImageLogin c'))
      (ofStaging settings { request with lifecycle := .docker image (some c) })
      (ofStaging settings { request with lifecycle := .docker image (some c') }) :=
  ofStaging_apart rfl (Staging.imagePlan_alike settings request image c c')

/-- No recipe of staging has credentials for the image of its container. -/
theorem imageCredentials_of_ofStaging_eq_ok {request : StagingRequest} {recipe : Recipe}
    (h : ofStaging settings request = .ok recipe) :
    recipe.imageUsername = none ∧ recipe.imagePassword = none := by
  obtain ⟨plan, rules, files, hplan, -, -, rfl⟩ := ofStaging_eq_ok.1 h
  have hnone := Staging.imageCredentials_of_plan_eq_ok hplan
  constructor
  · show plan.imageCredentials.map _ = none
    rw [hnone]
    rfl
  · show plan.imageCredentials.map _ = none
    rw [hnone]
    rfl

/-- Credentials of an image that runs show in a recipe as themselves and nowhere else. -/
theorem ofRun_docker_alike (settings : Settings) (request : RunRequest) (image : Option String)
    (c c' : Option ImageCredentials) :
    Alike (fun r s =>
        { r with imageUsername := s.imageUsername, imagePassword := s.imagePassword } = s)
      (ofRun settings { request with lifecycle := .docker image c })
      (ofRun settings { request with lifecycle := .docker image c' }) := by
  have hplans := Launch.imagePlan_alike settings request c c' request.selected.1
    request.selected.2
  refine hplans.bind fun p q h => ?_
  refine .bind_same _ fun root => .bind_same _ fun rules => .bind_same _ fun files => .served ?_
  rw [← h]
  rfl

/-- Staging does not look at bindings without files. -/
theorem ofStaging_of_features_none {request : StagingRequest}
    (h : request.workload.features = .none) (bindings : List ServiceBinding) :
    ofStaging settings { request with workload := request.workload.withBindings bindings }
      = ofStaging settings request := by
  unfold ofStaging mountedFilesOf
  rw [Workload.mountedFiles_withBindings h]
  rfl

/-- A run has nothing but volume mounts from bindings without files. -/
theorem ofRun_of_features_none {request : RunRequest} (h : request.workload.features = .none)
    {bindings : List ServiceBinding}
    (mounts : VolumeMount.ofBindings bindings
      = VolumeMount.ofBindings request.workload.bindings) :
    ofRun settings { request with workload := request.workload.withBindings bindings }
      = ofRun settings request := by
  have hlaunched : launched settings
      { request with workload := request.workload.withBindings bindings }
      = launched settings request := by
    funext d plan root rules files
    unfold launched
    rw [← mounts]
    rfl
  unfold ofRun mountedFilesOf
  rw [Workload.mountedFiles_withBindings h, hlaunched]
  rfl

/-- All credentials stay where they belong. -/
structure CredentialsConfined (settings : Settings) : Prop where
  /-- A run does not depend on the credentials for registries. -/
  cnbRun : ∀ (request : RunRequest) (stack : String) (asked : List Buildpack)
    (c c' : Option String),
    ofRun settings { request with lifecycle := .cnb stack asked c }
      = ofRun settings { request with lifecycle := .cnb stack asked c' }
  /-- Staging gives them to the builder, in its last variable. -/
  cnbStaging : ∀ (request : StagingRequest) (stack : String) (asked : List Buildpack)
    (c c' : String),
    Alike (Apart Run.blankRegistries (Run.EndsInRegistries c) (Run.EndsInRegistries c'))
      (ofStaging settings { request with lifecycle := .cnb stack asked (some c) })
      (ofStaging settings { request with lifecycle := .cnb stack asked (some c') })
  /-- Staging gives the credentials of an image to the builder, in its last arguments. -/
  dockerStaging : ∀ (request : StagingRequest) (image : Option String)
    (c c' : ImageCredentials),
    Alike (Apart Run.blankImageLogin (Run.EndsInImageLogin c) (Run.EndsInImageLogin c'))
      (ofStaging settings { request with lifecycle := .docker image (some c) })
      (ofStaging settings { request with lifecycle := .docker image (some c') })
  /-- The container of staging gets none for its own image. -/
  staging : ∀ (request : StagingRequest) (recipe : Recipe),
    ofStaging settings request = .ok recipe →
      recipe.imageUsername = none ∧ recipe.imagePassword = none
  /-- A run has the credentials of an image as those of its container. -/
  dockerRun : ∀ (request : RunRequest) (image : Option String)
    (c c' : Option ImageCredentials),
    Alike (fun r s =>
        { r with imageUsername := s.imageUsername, imagePassword := s.imagePassword } = s)
      (ofRun settings { request with lifecycle := .docker image c })
      (ofRun settings { request with lifecycle := .docker image c' })
  /-- Staging does not depend on the credentials of bindings that have no files. -/
  bindingsStaging : ∀ (request : StagingRequest) (bindings : List ServiceBinding),
    request.workload.features = .none →
    List.Forall₂ ServiceBinding.SameButCredentials request.workload.bindings bindings →
      ofStaging settings { request with workload := request.workload.withBindings bindings }
        = ofStaging settings request
  /-- Neither does a run. -/
  bindingsRun : ∀ (request : RunRequest) (bindings : List ServiceBinding),
    request.workload.features = .none →
    List.Forall₂ ServiceBinding.SameButCredentials request.workload.bindings bindings →
      ofRun settings { request with workload := request.workload.withBindings bindings }
        = ofRun settings request

/--
**Credentials flow only where they belong.** Requests that differ in the credentials for registries,
in those of an image or in those of bindings get the same refusal, or recipes that differ at most in
the one place for such credentials.
-/
theorem credentials_confined (settings : Settings) : CredentialsConfined settings where
  cnbRun := fun _ _ _ _ _ => rfl
  cnbStaging := ofStaging_cnb_apart settings
  dockerStaging := ofStaging_docker_apart settings
  staging := fun _ _ h => imageCredentials_of_ofStaging_eq_ok h
  dockerRun := ofRun_docker_alike settings
  bindingsStaging := fun _ bindings h _ => ofStaging_of_features_none h bindings
  bindingsRun := fun _ _ h same => ofRun_of_features_none h (VolumeMount.ofBindings_eq same)

/-- An app with a binding and without a feature for files. -/
def boundApp : Workload := { (default : Workload) with bindings := [.overwritten] }

/-- Its binding with credentials of its own. -/
def otherBinding : ServiceBinding :=
  { ServiceBinding.overwritten with credentials := .ofMembers [("password", .string "secret")] }

/-- A request to stage a private image for that app. -/
def privateImage (credentials : ImageCredentials) : StagingRequest :=
  { (default : StagingRequest) with
    lifecycle := .docker (some "team/app") (some credentials)
    workload := boundApp }

/-- A request to run the app. -/
def boundRun : RunRequest := { rolledBack with workload := boundApp }

/-- A private image that is staged with two logins, and bindings without files. -/
theorem credentials_confined_private :
    (∃ r s, ofStaging imageSettings (privateImage ⟨"reader", "secret"⟩) = .ok r ∧
      ofStaging imageSettings (privateImage ⟨"writer", "hidden"⟩) = .ok s ∧
      r.imageUsername = none ∧ r.imagePassword = none ∧
      Apart Run.blankImageLogin (Run.EndsInImageLogin ⟨"reader", "secret"⟩)
        (Run.EndsInImageLogin ⟨"writer", "hidden"⟩) r s) ∧
    boundApp.features = .none ∧
    List.Forall₂ ServiceBinding.SameButCredentials boundApp.bindings [otherBinding] ∧
    (∀ c, ofStaging imageSettings
        { privateImage c with workload := boundApp.withBindings [otherBinding] }
      = ofStaging imageSettings (privateImage c)) ∧
    ofRun imageSettings { boundRun with workload := boundApp.withBindings [otherBinding] }
      = ofRun imageSettings boundRun := by
  have hconfined := credentials_confined imageSettings
  have hsame : List.Forall₂ ServiceBinding.SameButCredentials boundApp.bindings [otherBinding] :=
    .cons rfl .nil
  refine ⟨?_, rfl, hsame, ?_, ?_⟩
  · have hserved : ∀ c, ∃ r, ofStaging imageSettings (privateImage c) = .ok r := fun _ => ⟨_, rfl⟩
    obtain ⟨r, hr⟩ := hserved ⟨"reader", "secret"⟩
    obtain ⟨s, hs⟩ := hserved ⟨"writer", "hidden"⟩
    obtain ⟨husername, hpassword⟩ := hconfined.staging _ _ hr
    have halike : Alike (Apart Run.blankImageLogin (Run.EndsInImageLogin ⟨"reader", "secret"⟩)
          (Run.EndsInImageLogin ⟨"writer", "hidden"⟩))
        (ofStaging imageSettings (privateImage ⟨"reader", "secret"⟩))
        (ofStaging imageSettings (privateImage ⟨"writer", "hidden"⟩)) :=
      hconfined.dockerStaging (privateImage ⟨"reader", "secret"⟩) (some "team/app") _ _
    rw [hr, hs] at halike
    cases halike with
    | served hapart => exact ⟨r, s, hr, hs, husername, hpassword, hapart⟩
  · intro c
    exact hconfined.bindingsStaging (privateImage c) [otherBinding] rfl hsame
  · exact hconfined.bindingsRun boundRun [otherBinding] rfl hsame

end Recipe

end CellRecipe
