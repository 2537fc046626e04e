import CellRecipe.Proofs.Conditions

/-!
# When a request to run is refused

The conditions of a recipe to run stand in an order: the location of a built droplet, the bundle of
the lifecycle, for an image its reference, then the egress rules and last the files of the bindings.
All of them are about the droplet that the request selects, which need not be its own.

Only the location is worth another attempt, and only a built droplet needs one. A droplet from an
image is never refused for it, whatever else is wrong.

## Main definitions

* `RunRequest.Deliverable`, `RunRequest.Rooted`: what the lifecycle needs from a droplet.
* `Launch.Refused`: a refusal that names the first condition that fails.

## Main results

* `Launch.ofRun_served_or_refused`: the answers to a run request.
-/

namespace CellRecipe

/-! ## What the lifecycle needs -/

namespace RunRequest

/-- The location of a built droplet is known. -/
def Deliverable (request : RunRequest) (d : Droplet) : Prop :=
  request.lifecycle.Built → ∃ url, d.downloadUrl = some url

/-- A droplet from an image has one, and its reference can be taken. -/
def Rooted (request : RunRequest) (d : Droplet) : Prop :=
  ∀ asked credentials, request.lifecycle = .docker asked credentials →
    ∃ image reference, d.imageOver asked = some image ∧ ImageReference.parse image = .ok reference

/-- What is said about a droplet from an image that has none, or none that can be taken. -/
inductive Unrooted (request : RunRequest) (d : Droplet) : Refusal → Prop
  | noImage {asked : Option String} {credentials : Option ImageCredentials}
      (docker : request.lifecycle = .docker asked credentials)
      (missing : d.imageOver asked = none) : Unrooted request d (.noImage d.guid)
  | badImage {asked : Option String} {credentials : Option ImageCredentials}
      (docker : request.lifecycle = .docker asked credentials) {image : String}
      (found : d.imageOver asked = some image) {fault : ImageReference.Fault}
      (bad : ImageReference.parse image = .error fault) : Unrooted request d (.image fault)

variable {request : RunRequest} {d : Droplet}

theorem deliverable_iff_of_built (h : request.lifecycle.Built) :
    request.Deliverable d ↔ ∃ url, d.downloadUrl = some url :=
  ⟨fun hd => hd h, fun hurl _ => hurl⟩

theorem rooted_of_built (h : request.lifecycle.Built) : request.Rooted d := by
  intro asked credentials hl
  rw [hl] at h
  exact absurd h (Lifecycle.not_built_docker asked credentials)

theorem not_unrooted_of_built (h : request.lifecycle.Built) {r : Refusal} :
    ¬ request.Unrooted d r := by
  intro hu
  cases hu with
  | noImage docker _ =>
      rw [docker] at h
      exact Lifecycle.not_built_docker _ _ h
  | badImage docker _ _ =>
      rw [docker] at h
      exact Lifecycle.not_built_docker _ _ h

variable {asked : Option String} {credentials : Option ImageCredentials}

theorem rooted_iff_of_docker (h : request.lifecycle = .docker asked credentials) :
    request.Rooted d ↔ ∃ image reference,
      d.imageOver asked = some image ∧ ImageReference.parse image = .ok reference := by
  constructor
  · intro hr
    exact hr asked credentials h
  · intro hi asked' credentials' hl
    rw [h] at hl
    obtain ⟨rfl, -⟩ := Lifecycle.docker.inj hl
    exact hi

theorem unrooted_iff_of_docker (h : request.lifecycle = .docker asked credentials) {r : Refusal} :
    request.Unrooted d r ↔
      d.imageOver asked = none ∧ r = .noImage d.guid ∨
        ∃ image fault, d.imageOver asked = some image ∧
          ImageReference.parse image = .error fault ∧ r = .image fault := by
  constructor
  · intro hu
    cases hu with
    | noImage docker missing =>
        rw [h] at docker
        obtain ⟨rfl, -⟩ := Lifecycle.docker.inj docker
        exact .inl ⟨missing, rfl⟩
    | badImage docker found bad =>
        rw [h] at docker
        obtain ⟨rfl, -⟩ := Lifecycle.docker.inj docker
        exact .inr ⟨_, _, found, bad, rfl⟩
  · intro hx
    rcases hx with ⟨missing, rfl⟩ | ⟨image, fault, found, bad, rfl⟩
    · exact .noImage h missing
    · exact .badImage h found bad

end RunRequest

/-! ## The answers -/

namespace Launch

/-- A request to run a droplet is refused for the first of its conditions that does not hold. -/
inductive Refused (settings : Settings) (request : RunRequest) (d : Droplet) : Refusal → Prop
  | delivery (built : request.lifecycle.Built) (missing : d.downloadUrl = none) :
      Refused settings request d (.missingDownload .droplet d.guid)
  | bundle (deliverable : request.Deliverable d) (missing : ¬ settings.Serves request.lifecycle) :
      Refused settings request d (.noBundle request.lifecycle.bundleKey)
  | root (deliverable : request.Deliverable d) (served : settings.Serves request.lifecycle)
      {r : Refusal} (unrooted : request.Unrooted d r) : Refused settings request d r
  | egress (deliverable : request.Deliverable d) (served : settings.Serves request.lifecycle)
      (rooted : request.Rooted d) {fault : EgressRule.GroupFault}
      (first : request.securityGroups.FirstFault fault) :
      Refused settings request d (.egress fault)
  | files (deliverable : request.Deliverable d) (served : settings.Serves request.lifecycle)
      (rooted : request.Rooted d) (translatable : request.securityGroups.Translatable)
      {fault : ServiceBinding.Fault} (faulty : request.workload.mountedFiles = .error fault) :
      Refused settings request d (.bindings fault)

variable {settings : Settings} {request : RunRequest} {d : Droplet} {command : String}

/-- A built droplet is brought to the launcher exactly when its location is known. -/
private theorem onDroplet_iff (settings : Settings) (run : Run) (hb : request.lifecycle.Built) :
    ((∃ p, onDroplet settings d run = .ok p) ↔ request.Deliverable d) ∧
      ∀ r, onDroplet settings d run = .error r ↔
        request.lifecycle.Built ∧ d.downloadUrl = none ∧ r = .missingDownload .droplet d.guid := by
  constructor
  · rw [RunRequest.deliverable_iff_of_built hb]
    simp only [onDroplet_eq_ok]
    constructor
    · intro hx
      obtain ⟨p, url, hurl, -⟩ := hx
      exact ⟨url, hurl⟩
    · intro hx
      obtain ⟨url, hurl⟩ := hx
      exact ⟨_, url, hurl, rfl⟩
  · intro r
    rw [onDroplet_eq_error]
    constructor
    · intro h
      exact ⟨hb, h⟩
    · intro hx
      obtain ⟨-, h⟩ := hx
      exact h

/-- Whatever the lifecycle, its plan is one in which the droplet is there, with the bundle of the
lifecycle. A droplet from an image has nothing to be brought. -/
private theorem plan_eq_delivery (settings : Settings) (request : RunRequest) (d : Droplet)
    (command : String) :
    ∃ (delivery : Except Refusal Plan) (b : Bundle), b.key = request.lifecycle.bundleKey ∧
      plan settings request.lifecycle request d command
        = delivery >>= Plan.withBundle settings b ∧
      ((∃ p, delivery = .ok p) ↔ request.Deliverable d) ∧
      ∀ r, delivery = .error r ↔
        request.lifecycle.Built ∧ d.downloadUrl = none ∧ r = .missingDownload .droplet d.guid := by
  cases hl : request.lifecycle with
  | buildpack stack asked =>
      have hb : request.lifecycle.Built := by
        rw [hl]
        exact .inl rfl
      have hanswers := onDroplet_iff (d := d) settings (buildpackLauncher request d command) hb
      rw [hl] at hanswers
      exact ⟨_, Staging.buildpackBundle stack, rfl, rfl, hanswers⟩
  | cnb stack asked credentials =>
      have hb : request.lifecycle.Built := by
        rw [hl]
        exact .inr rfl
      have hanswers := onDroplet_iff (d := d) settings (cnbLauncher request command) hb
      rw [hl] at hanswers
      exact ⟨_, Staging.cnbBundle stack, rfl, rfl, hanswers⟩
  | docker asked credentials =>
      have hnot := Lifecycle.not_built_docker asked credentials
      refine ⟨.ok (imageBase request credentials d command),
        Staging.imageBundle Container.lifecycleDir, rfl, rfl, ?_, ?_⟩
      · constructor
        · intro _ hb
          rw [hl] at hb
          exact absurd hb hnot
        · intro _
          exact ⟨_, rfl⟩
      · intro r
        constructor
        · intro h
          cases h
        · intro hx
          obtain ⟨hb, -⟩ := hx
          exact absurd hb hnot

/-- A plan is there exactly when the droplet can be brought and the settings have the bundle. -/
theorem exists_plan_eq_ok :
    (∃ p, plan settings request.lifecycle request d command = .ok p)
      ↔ request.Deliverable d ∧ settings.Serves request.lifecycle := by
  obtain ⟨delivery, b, hkey, hplan, hdeliverable, -⟩ :=
    plan_eq_delivery settings request d command
  rw [hplan, Plan.exists_then_withBundle_eq_ok, hdeliverable, Settings.serves_iff hkey]

/-- A plan is refused for the location of the droplet, and else for the bundle. -/
theorem plan_eq_error {r : Refusal} :
    plan settings request.lifecycle request d command = .error r ↔
      (request.lifecycle.Built ∧ d.downloadUrl = none ∧
        r = .missingDownload .droplet d.guid) ∨
      request.Deliverable d ∧ ¬ settings.Serves request.lifecycle ∧
        r = .noBundle request.lifecycle.bundleKey := by
  obtain ⟨delivery, b, hkey, hplan, hdeliverable, hmissing⟩ :=
    plan_eq_delivery settings request d command
  rw [hplan, Plan.then_withBundle_eq_error, hdeliverable, hmissing, Settings.not_serves_iff hkey,
    hkey]

/-- A built lifecycle has a root filesystem of its own. -/
theorem exists_rootFs_eq_ok_of_built (h : request.lifecycle.Built) :
    ∃ root, rootFs request.lifecycle d = .ok root := by
  cases hl : request.lifecycle with
  | buildpack stack asked => exact ⟨_, rfl⟩
  | cnb stack asked credentials => exact ⟨_, rfl⟩
  | docker asked credentials =>
      rw [hl] at h
      exact absurd h (Lifecycle.not_built_docker asked credentials)

/-- A root filesystem is there exactly when an image, where one is needed, can be taken. -/
theorem exists_rootFs_eq_ok :
    (∃ root, rootFs request.lifecycle d = .ok root) ↔ request.Rooted d := by
  rcases request.lifecycle.built_or_docker with hb | ⟨asked, credentials, hl⟩
  · exact ⟨fun _ => RunRequest.rooted_of_built hb, fun _ => exists_rootFs_eq_ok_of_built hb⟩
  · rw [RunRequest.rooted_iff_of_docker hl, hl]
    show (∃ root, imageRootFs asked d = .ok root) ↔ _
    simp only [imageRootFs_eq_ok]
    constructor
    · intro h
      obtain ⟨root, image, reference, himage, hparse, -⟩ := h
      exact ⟨image, reference, himage, hparse⟩
    · intro h
      obtain ⟨image, reference, himage, hparse⟩ := h
      exact ⟨_, image, reference, himage, hparse, rfl⟩

/-- A root filesystem is refused for the image, where one is needed. -/
theorem rootFs_eq_error {r : Refusal} :
    rootFs request.lifecycle d = .error r ↔ request.Unrooted d r := by
  rcases request.lifecycle.built_or_docker with hb | ⟨asked, credentials, hl⟩
  · obtain ⟨root, hroot⟩ := exists_rootFs_eq_ok_of_built (d := d) hb
    rw [hroot]
    constructor
    · intro h
      cases h
    · intro h
      exact absurd h (RunRequest.not_unrooted_of_built hb)
  · rw [RunRequest.unrooted_iff_of_docker hl, hl]
    exact imageRootFs_eq_error

theorem exists_ofRun_eq_ok :
    (∃ recipe, Recipe.ofRun settings request = .ok recipe) ↔
      request.Deliverable request.selected.1 ∧ settings.Serves request.lifecycle ∧
        request.Rooted request.selected.1 ∧ request.securityGroups.Translatable ∧
        request.workload.FilesBuild := by
  have hplans := @exists_plan_eq_ok settings request request.selected.1 request.selected.2
  rw [SecurityGroups.translatable_iff, ← exists_rootFs_eq_ok, ← and_assoc, ← hplans]
  simp only [Recipe.ofRun_eq_ok]
  constructor
  · intro h
    obtain ⟨recipe, plan, root, rules, files, hplan, hroot, hrules, hfiles, -⟩ := h
    exact ⟨⟨plan, hplan⟩, ⟨root, hroot⟩, ⟨rules, hrules⟩, files, hfiles⟩
  · intro h
    obtain ⟨⟨plan, hplan⟩, ⟨root, hroot⟩, ⟨rules, hrules⟩, files, hfiles⟩ := h
    exact ⟨_, plan, root, rules, files, hplan, hroot, hrules, hfiles, rfl⟩

theorem ofRun_eq_error_iff_refused {r : Refusal} :
    Recipe.ofRun settings request = .error r ↔ Refused settings request request.selected.1 r := by
  rw [Recipe.ofRun_eq_error, plan_eq_error, exists_plan_eq_ok, rootFs_eq_error,
    exists_rootFs_eq_ok, ← SecurityGroups.translatable_iff]
  simp only [← SecurityGroups.firstFault_iff]
  constructor
  · intro hx
    rcases hx with (⟨built, missing, rfl⟩ | ⟨deliverable, missing, rfl⟩) |
      ⟨⟨deliverable, served⟩, unrooted |
        ⟨rooted, ⟨fault, first, rfl⟩ | ⟨translatable, fault, faulty, rfl⟩⟩⟩
    · exact .delivery built missing
    · exact .bundle deliverable missing
    · exact .root deliverable served unrooted
    · exact .egress deliverable served rooted first
    · exact .files deliverable served rooted translatable faulty
  · intro h
    cases h with
    | delivery built missing => exact .inl (.inl ⟨built, missing, rfl⟩)
    | bundle deliverable missing => exact .inl (.inr ⟨deliverable, missing, rfl⟩)
    | root deliverable served unrooted => exact .inr ⟨⟨deliverable, served⟩, .inl unrooted⟩
    | egress deliverable served rooted first =>
        exact .inr ⟨⟨deliverable, served⟩, .inr ⟨rooted, .inl ⟨_, first, rfl⟩⟩⟩
    | files deliverable served rooted translatable faulty =>
        exact .inr ⟨⟨deliverable, served⟩, .inr ⟨rooted, .inr ⟨translatable, _, faulty, rfl⟩⟩⟩

/-- No fault of an image is worth another attempt. -/
theorem not_retryable_of_unrooted {r : Refusal} (h : request.Unrooted d r) :
    r.retryable = false := by
  cases h <;> rfl

/-- Only the missing location of a built droplet is worth another attempt. -/
theorem Refused.retryable_iff {r : Refusal} (h : Refused settings request d r) :
    r.retryable = true ↔ request.lifecycle.Built ∧ d.downloadUrl = none := by
  by_cases hmissing : request.lifecycle.Built ∧ d.downloadUrl = none
  · have hnot : ¬ request.Deliverable d := by
      intro hd
      obtain ⟨url, hurl⟩ := hd hmissing.1
      rw [hmissing.2] at hurl
      cases hurl
    cases h with
    | delivery _ _ => exact ⟨fun _ => hmissing, fun _ => rfl⟩
    | bundle deliverable _ => exact absurd deliverable hnot
    | root deliverable _ _ => exact absurd deliverable hnot
    | egress deliverable _ _ _ => exact absurd deliverable hnot
    | files deliverable _ _ _ _ => exact absurd deliverable hnot
  · have hnot : r.retryable = false := by
      cases h with
      | delivery built missing => exact absurd ⟨built, missing⟩ hmissing
      | bundle _ _ => rfl
      | root _ _ unrooted => exact not_retryable_of_unrooted unrooted
      | egress _ _ _ _ => rfl
      | files _ _ _ _ _ => rfl
    rw [hnot]
    exact ⟨fun hr => Bool.noConfusion hr, fun hm => absurd hm hmissing⟩

/-- **The answers to a run request.** It gets a recipe exactly when the droplet it selects can be
brought, the bundle is there, an image that is needed can be taken, the rules have egress rules and
the files can be built. It is refused for the first of these that fails. Another attempt can help
exactly when the location of a built droplet is missing. -/
theorem ofRun_served_or_refused (settings : Settings) (request : RunRequest) :
    ((∃ recipe, Recipe.ofRun settings request = .ok recipe) ↔
      request.Deliverable request.selected.1 ∧ settings.Serves request.lifecycle ∧
        request.Rooted request.selected.1 ∧ request.securityGroups.Translatable ∧
        request.workload.FilesBuild) ∧
    (∀ r, Recipe.ofRun settings request = .error r ↔
      Refused settings request request.selected.1 r) ∧
    ((∃ r, Recipe.ofRun settings request = .error r ∧ r.retryable = true) ↔
      request.lifecycle.Built ∧ request.selected.1.downloadUrl = none) := by
  refine ⟨exists_ofRun_eq_ok, fun r => ofRun_eq_error_iff_refused, ?_⟩
  constructor
  · intro h
    obtain ⟨r, hr, hretry⟩ := h
    exact (ofRun_eq_error_iff_refused.1 hr).retryable_iff.1 hretry
  · intro h
    obtain ⟨built, missing⟩ := h
    exact ⟨_, ofRun_eq_error_iff_refused.2 (.delivery built missing), rfl⟩

end Launch

end CellRecipe
