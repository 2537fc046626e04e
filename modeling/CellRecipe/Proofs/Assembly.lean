import CellRecipe.Proofs.Outcome
import CellRecipe.Proofs.StagingMessage
import CellRecipe.Recipe.Assembly

/-!
# The parts of a recipe and their answers

A recipe has a handful of parts that may be refused: the plan of its lifecycle with the bundle that
the settings name, the root filesystem of an image, the egress rules and the files of the bindings.
Here each part gets its two answers, in terms of the request and of the settings, and the recipe
gets the answers of its parts. What is proved of recipes elsewhere starts from these.

## Main results

* `Plan.exists_then_withBundle_eq_ok`, `Plan.then_withBundle_eq_error`: the bundle of a lifecycle.
* `Launch.onDroplet_eq_ok`, `Launch.onDroplet_eq_error`: the delivery of a droplet.
* `EgressRule.exists_ofGroups_eq_ok`, `EgressRule.ofGroups_eq_error`: the rules of all groups.
* `Recipe.ofStaging_eq_ok`, `Recipe.ofRun_eq_ok`: what a recipe is made of.
* `Recipe.ofStaging_eq_error`, `Recipe.ofRun_eq_error`: the part that refused.
-/

namespace CellRecipe

open Outcome

/-! ## Refusals -/

/-- Only a missing location is worth another attempt. -/
theorem Refusal.retryable_iff {r : Refusal} :
    r.retryable = true ↔ ∃ artifact guid, r = .missingDownload artifact guid := by
  cases r <;> simp [Refusal.retryable, Refusal.category]

/-! ## Bundles -/

namespace Plan

theorem withBundle_eq_ok {settings : Settings} {b : Bundle} {p q : Plan} :
    withBundle settings b p = .ok q
      ↔ ∃ bundle, settings.bundle? b.key = some bundle ∧ p.bundled settings b bundle = q := by
  unfold withBundle
  cases settings.bundle? b.key <;> simp

theorem withBundle_eq_error {settings : Settings} {b : Bundle} {p : Plan} {r : Refusal} :
    withBundle settings b p = .error r ↔ settings.bundle? b.key = none ∧ r = .noBundle b.key := by
  unfold withBundle
  cases settings.bundle? b.key <;> simp [eq_comm]

theorem action_bundled (settings : Settings) (b : Bundle) (bundle : String) (p : Plan) :
    (p.bundled settings b bundle).action = p.action := by
  unfold bundled
  cases settings.declarativeAssets <;> rfl

theorem environment_bundled (settings : Settings) (b : Bundle) (bundle : String) (p : Plan) :
    (p.bundled settings b bundle).environment = p.environment := by
  unfold bundled
  cases settings.declarativeAssets <;> rfl

theorem imageCredentials_bundled (settings : Settings) (b : Bundle) (bundle : String)
    (p : Plan) : (p.bundled settings b bundle).imageCredentials = p.imageCredentials := by
  unfold bundled
  cases settings.declarativeAssets <;> rfl

/-- The bundle is the only asset of a plan without others. -/
theorem targets_bundled (settings : Settings) (b : Bundle) (bundle : String) {p : Plan}
    (noDependencies : p.cachedDependencies = []) (noLayers : p.imageLayers = []) :
    (p.bundled settings b bundle).cachedDependencies.map (·.target)
      ++ (p.bundled settings b bundle).imageLayers.map (·.target) = [b.target] := by
  unfold bundled
  cases settings.declarativeAssets <;> simp [noDependencies, noLayers]

/-- A plan that gets a bundle last is there when both are. -/
theorem exists_then_withBundle_eq_ok {settings : Settings} {b : Bundle} {x : Except Refusal Plan} :
    (∃ q, x >>= withBundle settings b = .ok q)
      ↔ (∃ p, x = .ok p) ∧ ∃ bundle, settings.bundle? b.key = some bundle := by
  simp only [bind_eq_ok, withBundle_eq_ok]
  constructor
  · intro h
    obtain ⟨q, p, hp, bundle, hbundle, -⟩ := h
    exact ⟨⟨p, hp⟩, bundle, hbundle⟩
  · intro h
    obtain ⟨⟨p, hp⟩, bundle, hbundle⟩ := h
    exact ⟨_, p, hp, bundle, hbundle, rfl⟩

/-- A missing bundle is the fault of a plan that has no other. -/
theorem then_withBundle_eq_error {settings : Settings} {b : Bundle} {x : Except Refusal Plan}
    {r : Refusal} :
    x >>= withBundle settings b = .error r ↔
      x = .error r ∨ (∃ p, x = .ok p) ∧ settings.bundle? b.key = none ∧ r = .noBundle b.key := by
  simp only [bind_eq_error, withBundle_eq_error]
  constructor
  · intro hx
    rcases hx with h | ⟨p, hp, h⟩
    · exact .inl h
    · exact .inr ⟨⟨p, hp⟩, h⟩
  · intro hx
    rcases hx with h | ⟨⟨p, hp⟩, h⟩
    · exact .inl h
    · exact .inr ⟨p, hp, h⟩

end Plan

/-! ## Staging plans -/

namespace Staging

/-- A message about an image lacks the image or nothing. -/
theorem checkedImage_eq (image : Option String) (credentials : Option ImageCredentials) :
    checkedImage image credentials
      = match image with
        | some reference => .ok reference
        | none => .error (.violations [⟨"docker_image", "a string", "null"⟩]) := by
  have huser : Schema.violation? (imageMembers image credentials)
      (Schema.may "docker_user" .text) = none :=
    Schema.violation?_may_text (credentials.map (·.username)) rfl
  have hpassword : Schema.violation? (imageMembers image credentials)
      (Schema.may "docker_password" .text) = none :=
    Schema.violation?_may_text (credentials.map (·.password)) rfl
  have himage : Schema.violation? (imageMembers image credentials)
      (Schema.must "docker_image" .text) = Violation.ofMissing? "docker_image" image :=
    Schema.violation?_must_text image rfl
  unfold checkedImage
  rw [Schema.violations, Schema.docker]
  simp only [List.filterMap_cons, List.filterMap_nil, himage, huser, hpassword]
  cases image <;> rfl

end Staging

/-! ## Launch plans -/

/-- The image in which a droplet runs: the one recorded for it, or else the one asked for. -/
def Droplet.imageOver (d : Droplet) (asked : Option String) : Option String :=
  match d.receiptImage with
  | some recorded => some recorded
  | none => asked

theorem Droplet.imageOver_eq (d : Droplet) (asked : Option String) :
    d.imageOver asked = (d.receiptImage <|> asked) := by
  unfold imageOver
  cases d.receiptImage <;> rfl

namespace Launch

/-- A droplet is fetched where assets are not declared or its checksum is not known. -/
theorem delivered_of_fetch {settings : Settings} {d : Droplet}
    (fetch : settings.declarativeAssets = false ∨ d.sha256 = none) (url : String) (run : Run) :
    delivered settings d url run
      = { action := .serial [dropletDownload url d.sha256, .run run] } := by
  unfold delivered
  rcases fetch with hdeclared | hsha
  · rw [hdeclared]
  · rw [hsha]
    cases settings.declarativeAssets <;> rfl

/-- A droplet is a layer where assets are declared and its checksum is known. -/
theorem delivered_of_layer {settings : Settings} {d : Droplet} {sha256 : String}
    (declared : settings.declarativeAssets = true) (known : d.sha256 = some sha256) (url : String)
    (run : Run) :
    delivered settings d url run
      = { action := .run run, imageLayers := [dropletLayer url sha256] } := by
  unfold delivered
  rw [declared, known]

theorem onDroplet_eq_ok {settings : Settings} {d : Droplet} {run : Run} {p : Plan} :
    onDroplet settings d run = .ok p
      ↔ ∃ url, d.downloadUrl = some url ∧ delivered settings d url run = p := by
  unfold onDroplet
  cases d.downloadUrl <;> simp

theorem onDroplet_eq_error {settings : Settings} {d : Droplet} {run : Run} {r : Refusal} :
    onDroplet settings d run = .error r
      ↔ d.downloadUrl = none ∧ r = .missingDownload .droplet d.guid := by
  unfold onDroplet
  cases d.downloadUrl <;> simp [eq_comm]

/-- The root filesystem of an image is the one of its reference. -/
theorem imageRootFs_eq_ok {asked : Option String} {d : Droplet} {root : String} :
    imageRootFs asked d = .ok root ↔ ∃ image reference, d.imageOver asked = some image ∧
      ImageReference.parse image = .ok reference ∧ reference.text = root := by
  unfold imageRootFs
  rw [← Droplet.imageOver_eq]
  cases d.imageOver asked with
  | none => simp
  | some image => cases hparse : ImageReference.parse image <;> simp [hparse]

/-- The root filesystem of an image is refused for want of one, or for the reference. -/
theorem imageRootFs_eq_error {asked : Option String} {d : Droplet} {r : Refusal} :
    imageRootFs asked d = .error r ↔ d.imageOver asked = none ∧ r = .noImage d.guid ∨
      ∃ image fault, d.imageOver asked = some image ∧
        ImageReference.parse image = .error fault ∧ r = .image fault := by
  unfold imageRootFs
  rw [← Droplet.imageOver_eq]
  cases d.imageOver asked with
  | none => simp [eq_comm]
  | some image => cases hparse : ImageReference.parse image <;> simp [hparse, eq_comm]

end Launch

/-! ## Egress rules and files -/

namespace EgressRule

/-- The rules of all groups are there exactly when every rule of every group has one. -/
theorem exists_ofGroups_eq_ok {groups : SecurityGroups} :
    (∃ rules, ofGroups groups = .ok rules)
      ↔ ∀ p ∈ groups.ruled, ∃ translated, ofRule p.1 p.2 = .ok translated := by
  unfold ofGroups
  rw [exists_mapM_eq_ok]
  simp only [mapError_eq_ok]

/-- The fault of the groups is that of the first rule that has none, with the group it is in. -/
theorem ofGroups_eq_error {groups : SecurityGroups} {fault : GroupFault} :
    ofGroups groups = .error fault ↔ ∃ before group rule after,
      groups.ruled = before ++ (group, rule) :: after ∧
      (∀ p ∈ before, ∃ translated, ofRule p.1 p.2 = .ok translated) ∧
      fault.group = group.guid ∧ ofRule group rule = .error fault.fault := by
  unfold ofGroups
  rw [mapM_eq_error]
  simp only [mapError_eq_ok, mapError_eq_error, Prod.exists]
  constructor
  · intro h
    obtain ⟨before, group, rule, after, hsplit, hbefore, f, hf, rfl⟩ := h
    exact ⟨before, group, rule, after, hsplit, hbefore, rfl, hf⟩
  · intro h
    obtain ⟨before, group, rule, after, hsplit, hbefore, hgroup, hf⟩ := h
    refine ⟨before, group, rule, after, hsplit, hbefore, fault.fault, hf, ?_⟩
    rw [← hgroup]

end EgressRule

namespace Recipe

theorem egressRulesOf_eq_ok {groups : SecurityGroups} {rules : List EgressRule} :
    egressRulesOf groups = .ok rules ↔ EgressRule.ofGroups groups = .ok rules :=
  mapError_eq_ok

theorem egressRulesOf_eq_error {groups : SecurityGroups} {r : Refusal} :
    egressRulesOf groups = .error r
      ↔ ∃ fault, EgressRule.ofGroups groups = .error fault ∧ Refusal.egress fault = r :=
  mapError_eq_error

theorem mountedFilesOf_eq_ok {w : Workload} {files : List MountedFile} :
    mountedFilesOf w = .ok files ↔ w.mountedFiles = .ok files :=
  mapError_eq_ok

theorem mountedFilesOf_eq_error {w : Workload} {r : Refusal} :
    mountedFilesOf w = .error r
      ↔ ∃ fault, w.mountedFiles = .error fault ∧ Refusal.bindings fault = r :=
  mapError_eq_error

/-! ## Whole recipes -/

/-- A staging recipe is made of its plan, its egress rules and its files. -/
theorem ofStaging_eq_ok {settings : Settings} {request : StagingRequest} {recipe : Recipe} :
    ofStaging settings request = .ok recipe ↔ ∃ plan rules files,
      Staging.plan settings request.lifecycle request = .ok plan ∧
      EgressRule.ofGroups request.securityGroups = .ok rules ∧
      request.workload.mountedFiles = .ok files ∧
      staged settings request plan rules files = recipe := by
  unfold ofStaging
  simp only [bind_eq_ok, egressRulesOf_eq_ok, mountedFilesOf_eq_ok]
  constructor
  · intro hx
    obtain ⟨plan, hplan, rules, hrules, files, hfiles, h⟩ := hx
    exact ⟨plan, rules, files, hplan, hrules, hfiles, Except.ok.inj h⟩
  · intro hx
    obtain ⟨plan, rules, files, hplan, hrules, hfiles, rfl⟩ := hx
    exact ⟨plan, hplan, rules, hrules, files, hfiles, rfl⟩

/-- A staging recipe is refused by the first of its parts that is. -/
theorem ofStaging_eq_error {settings : Settings} {request : StagingRequest} {r : Refusal} :
    ofStaging settings request = .error r ↔
      Staging.plan settings request.lifecycle request = .error r ∨
      (∃ plan, Staging.plan settings request.lifecycle request = .ok plan) ∧
        ((∃ fault, EgressRule.ofGroups request.securityGroups = .error fault ∧ .egress fault = r) ∨
        (∃ rules, EgressRule.ofGroups request.securityGroups = .ok rules) ∧
          ∃ fault, request.workload.mountedFiles = .error fault ∧ .bindings fault = r) := by
  unfold ofStaging
  simp only [bind_eq_error, egressRulesOf_eq_ok, egressRulesOf_eq_error, mountedFilesOf_eq_error]
  simp [pure, Except.pure]

/-- A recipe to run is made of its plan, its root filesystem, its egress rules and its files. -/
theorem ofRun_eq_ok {settings : Settings} {request : RunRequest} {recipe : Recipe} :
    ofRun settings request = .ok recipe ↔ ∃ plan rootFs rules files,
      Launch.plan settings request.lifecycle request request.selected.1 request.selected.2
        = .ok plan ∧
      Launch.rootFs request.lifecycle request.selected.1 = .ok rootFs ∧
      EgressRule.ofGroups request.securityGroups = .ok rules ∧
      request.workload.mountedFiles = .ok files ∧
      launched settings request request.selected.1 plan rootFs rules files = recipe := by
  unfold ofRun
  simp only [bind_eq_ok, egressRulesOf_eq_ok, mountedFilesOf_eq_ok]
  constructor
  · intro hx
    obtain ⟨plan, hplan, rootFs, hroot, rules, hrules, files, hfiles, h⟩ := hx
    exact ⟨plan, rootFs, rules, files, hplan, hroot, hrules, hfiles, Except.ok.inj h⟩
  · intro hx
    obtain ⟨plan, rootFs, rules, files, hplan, hroot, hrules, hfiles, rfl⟩ := hx
    exact ⟨plan, hplan, rootFs, hroot, rules, hrules, files, hfiles, rfl⟩

/-- A recipe to run is refused by the first of its parts that is. -/
theorem ofRun_eq_error {settings : Settings} {request : RunRequest} {r : Refusal} :
    ofRun settings request = .error r ↔
      Launch.plan settings request.lifecycle request request.selected.1 request.selected.2
        = .error r ∨
      (∃ plan, Launch.plan settings request.lifecycle request request.selected.1
          request.selected.2 = .ok plan) ∧
        (Launch.rootFs request.lifecycle request.selected.1 = .error r ∨
        (∃ rootFs, Launch.rootFs request.lifecycle request.selected.1 = .ok rootFs) ∧
          ((∃ fault, EgressRule.ofGroups request.securityGroups = .error fault ∧
            .egress fault = r) ∨
          (∃ rules, EgressRule.ofGroups request.securityGroups = .ok rules) ∧
            ∃ fault, request.workload.mountedFiles = .error fault ∧ .bindings fault = r)) := by
  unfold ofRun
  simp only [bind_eq_error, egressRulesOf_eq_ok, egressRulesOf_eq_error, mountedFilesOf_eq_error]
  simp [pure, Except.pure]

end Recipe

end CellRecipe
