import CellRecipe.Proofs.Conditions

/-!
# When a request to stage is refused

The conditions of a staging recipe stand in an order: the locations or the image that the lifecycle
needs, its bundle, the egress rules, and last the files of the bindings. A request gets a recipe
exactly when all of them hold, and otherwise it is refused for the first that does not, however many
others fail with it.

The order matters to whoever asks again: the location of the package goes before every other fault
of a built lifecycle, so it is never hidden behind a fault that no attempt can mend.

## Main definitions

* `StagingRequest.Supplied`, `StagingRequest.Lacks`: what the lifecycle needs from the request.
* `Staging.Refused`: a refusal that names the first condition that fails.

## Main results

* `Staging.ofStaging_served_or_refused`: the answers to a staging request.
-/

namespace CellRecipe

open Outcome

/-! ## What the lifecycle needs -/

/-- The locations that a builder must have are all there. -/
def Blobstore.Complete (b : Blobstore) : Prop :=
  (∃ package, b.packageDownload = some package) ∧ (∃ cache, b.cacheUpload = some cache) ∧
    ∃ droplet, b.dropletUpload = some droplet

/-- The request has what its lifecycle needs: the locations that a builder must have, or an
image. -/
structure StagingRequest.Supplied (request : StagingRequest) : Prop where
  locations : request.lifecycle.Built → request.blobstore.Complete
  image : ∀ image credentials, request.lifecycle = .docker image credentials →
    ∃ reference, image = some reference

/-- What is said about a request that lacks something that its lifecycle needs. Without a package it
does not matter what else is missing. -/
inductive StagingRequest.Lacks (request : StagingRequest) : Refusal → Prop
  | package (built : request.lifecycle.Built)
      (missing : request.blobstore.packageDownload = none) :
      Lacks request (.missingDownload .package request.package.guid)
  | uploads (built : request.lifecycle.Built)
      (present : ∃ package, request.blobstore.packageDownload = some package)
      (missing : Blobstore.complaints request.blobstore.uploads ≠ []) :
      Lacks request (.violations (Blobstore.complaints request.blobstore.uploads))
  | image (credentials : Option ImageCredentials)
      (missing : request.lifecycle = .docker none credentials) :
      Lacks request (.violations [⟨"docker_image", "a string", "null"⟩])

namespace StagingRequest

variable {request : StagingRequest}

theorem supplied_iff_of_built (h : request.lifecycle.Built) :
    request.Supplied ↔ request.blobstore.Complete := by
  constructor
  · intro hs
    exact hs.locations h
  · intro hc
    refine ⟨fun _ => hc, fun image credentials hl => ?_⟩
    rw [hl] at h
    exact absurd h (Lifecycle.not_built_docker image credentials)

theorem supplied_iff_of_docker {image : Option String} {credentials : Option ImageCredentials}
    (h : request.lifecycle = .docker image credentials) :
    request.Supplied ↔ ∃ reference, image = some reference := by
  constructor
  · intro hs
    exact hs.image image credentials h
  · intro hi
    refine ⟨fun hb => ?_, fun image' credentials' hl => ?_⟩
    · rw [h] at hb
      exact absurd hb (Lifecycle.not_built_docker image credentials)
    · rw [h] at hl
      obtain ⟨rfl, -⟩ := Lifecycle.docker.inj hl
      exact hi

theorem lacks_iff_of_built (h : request.lifecycle.Built) {r : Refusal} :
    request.Lacks r ↔
      request.blobstore.packageDownload = none ∧
          r = .missingDownload .package request.package.guid ∨
        (∃ package, request.blobstore.packageDownload = some package) ∧
          Blobstore.complaints request.blobstore.uploads ≠ [] ∧
          r = .violations (Blobstore.complaints request.blobstore.uploads) := by
  constructor
  · intro hl
    cases hl with
    | package _ missing => exact .inl ⟨missing, rfl⟩
    | uploads _ present missing => exact .inr ⟨present, missing, rfl⟩
    | image credentials missing =>
        rw [missing] at h
        exact absurd h (Lifecycle.not_built_docker none credentials)
  · intro hx
    rcases hx with ⟨missing, rfl⟩ | ⟨present, missing, rfl⟩
    · exact .package h missing
    · exact .uploads h present missing

theorem lacks_iff_of_docker {image : Option String} {credentials : Option ImageCredentials}
    (h : request.lifecycle = .docker image credentials) {r : Refusal} :
    request.Lacks r
      ↔ image = none ∧ r = .violations [⟨"docker_image", "a string", "null"⟩] := by
  have hnot : ¬ request.lifecycle.Built := by
    rw [h]
    exact Lifecycle.not_built_docker image credentials
  constructor
  · intro hl
    cases hl with
    | package built _ => exact absurd built hnot
    | uploads built _ _ => exact absurd built hnot
    | image credentials' missing =>
        rw [h] at missing
        exact ⟨(Lifecycle.docker.inj missing).1, rfl⟩
  · intro hx
    obtain ⟨rfl, rfl⟩ := hx
    exact .image credentials h

end StagingRequest

/-! ## The answers -/

namespace Staging

/-- A staging request is refused for the first of its conditions that does not hold. -/
inductive Refused (settings : Settings) (request : StagingRequest) : Refusal → Prop
  | supply {r : Refusal} (lacks : request.Lacks r) : Refused settings request r
  | bundle (supplied : request.Supplied) (missing : ¬ settings.Serves request.lifecycle) :
      Refused settings request (.noBundle request.lifecycle.bundleKey)
  | egress (supplied : request.Supplied) (served : settings.Serves request.lifecycle)
      {fault : EgressRule.GroupFault} (first : request.securityGroups.FirstFault fault) :
      Refused settings request (.egress fault)
  | files (supplied : request.Supplied) (served : settings.Serves request.lifecycle)
      (translatable : request.securityGroups.Translatable) {fault : ServiceBinding.Fault}
      (faulty : request.workload.mountedFiles = .error fault) :
      Refused settings request (.bindings fault)

variable {settings : Settings} {request : StagingRequest}

/-- A message can be had exactly when the locations are complete. -/
private theorem exists_located_eq_ok (meant : String → String → String → StagingMessage) :
    (∃ m, StagingMessage.located request meant = .ok m) ↔ request.blobstore.Complete := by
  simp only [StagingMessage.located_eq_ok, Blobstore.Complete]
  constructor
  · intro h
    obtain ⟨m, package, cache, droplet, hpackage, hcache, hdroplet, -⟩ := h
    exact ⟨⟨package, hpackage⟩, ⟨cache, hcache⟩, droplet, hdroplet⟩
  · intro h
    obtain ⟨⟨package, hpackage⟩, ⟨cache, hcache⟩, droplet, hdroplet⟩ := h
    exact ⟨_, package, cache, droplet, hpackage, hcache, hdroplet, rfl⟩

/-- What a builder's plan is made of before its bundle is added has the answers of its message. -/
private theorem map_located_iff {x : Except Refusal StagingMessage}
    {meant : String → String → String → StagingMessage}
    (hx : x = StagingMessage.located request meant) (base : StagingMessage → Plan)
    (hb : request.lifecycle.Built) :
    ((∃ p, x.map base = .ok p) ↔ request.Supplied) ∧
      ∀ r, x.map base = .error r ↔ request.Lacks r := by
  constructor
  · rw [StagingRequest.supplied_iff_of_built hb, ← exists_located_eq_ok meant, ← hx]
    simp only [map_eq_ok]
    constructor
    · intro h
      obtain ⟨p, m, hm, -⟩ := h
      exact ⟨m, hm⟩
    · intro h
      obtain ⟨m, hm⟩ := h
      exact ⟨base m, m, hm, rfl⟩
  · intro r
    rw [StagingRequest.lacks_iff_of_built hb, map_eq_error, hx, StagingMessage.located_eq_error]

/-- Whatever the lifecycle, its plan is one that the request supplies, with the bundle of the
lifecycle. The message of a builder and the image are the two ways to be supplied. -/
private theorem plan_eq_supply (settings : Settings) (request : StagingRequest) :
    ∃ (supply : Except Refusal Plan) (b : Bundle), b.key = request.lifecycle.bundleKey ∧
      plan settings request.lifecycle request = supply >>= Plan.withBundle settings b ∧
      ((∃ p, supply = .ok p) ↔ request.Supplied) ∧
      ∀ r, supply = .error r ↔ request.Lacks r := by
  cases hl : request.lifecycle with
  | buildpack stack asked =>
      have hb : request.lifecycle.Built := by
        rw [hl]
        exact .inl rfl
      refine ⟨_, buildpackBundle stack, rfl, ?_,
        map_located_iff (StagingMessage.forBuildpacks_eq request stack asked)
          (buildpackBase settings request stack) hb⟩
      rw [plan, buildpackPlan, map_then]
  | cnb stack asked credentials =>
      have hb : request.lifecycle.Built := by
        rw [hl]
        exact .inr rfl
      refine ⟨_, cnbBundle stack, rfl, ?_,
        map_located_iff (StagingMessage.forCnb_eq request stack asked credentials)
          (cnbBase settings request stack) hb⟩
      rw [plan, cnbPlan, map_then]
  | docker image credentials =>
      refine ⟨(checkedImage image credentials).map fun reference =>
          imageBase settings request reference credentials,
        imageBundle Container.imageLifecycleDir, rfl, ?_, ?_, fun r => ?_⟩
      · rw [plan, imagePlan, map_then]
      · rw [StagingRequest.supplied_iff_of_docker hl, checkedImage_eq]
        cases image <;> simp [Except.map]
      · rw [StagingRequest.lacks_iff_of_docker hl, map_eq_error, checkedImage_eq]
        cases image <;> simp [eq_comm]

/-- A plan is there exactly when the request is supplied and the settings have the bundle. -/
theorem exists_plan_eq_ok :
    (∃ p, plan settings request.lifecycle request = .ok p)
      ↔ request.Supplied ∧ settings.Serves request.lifecycle := by
  obtain ⟨supply, b, hkey, hplan, hsupplied, -⟩ := plan_eq_supply settings request
  rw [hplan, Plan.exists_then_withBundle_eq_ok, hsupplied, Settings.serves_iff hkey]

/-- A plan is refused for what the request lacks, and else for the bundle. -/
theorem plan_eq_error {r : Refusal} :
    plan settings request.lifecycle request = .error r ↔
      request.Lacks r ∨ request.Supplied ∧ ¬ settings.Serves request.lifecycle ∧
        r = .noBundle request.lifecycle.bundleKey := by
  obtain ⟨supply, b, hkey, hplan, hsupplied, hlacks⟩ := plan_eq_supply settings request
  rw [hplan, Plan.then_withBundle_eq_error, hsupplied, hlacks, Settings.not_serves_iff hkey, hkey]

theorem exists_ofStaging_eq_ok :
    (∃ recipe, Recipe.ofStaging settings request = .ok recipe) ↔
      request.Supplied ∧ settings.Serves request.lifecycle ∧
        request.securityGroups.Translatable ∧ request.workload.FilesBuild := by
  rw [SecurityGroups.translatable_iff, ← and_assoc, ← exists_plan_eq_ok]
  simp only [Recipe.ofStaging_eq_ok]
  constructor
  · intro h
    obtain ⟨recipe, plan, rules, files, hplan, hrules, hfiles, -⟩ := h
    exact ⟨⟨plan, hplan⟩, ⟨rules, hrules⟩, files, hfiles⟩
  · intro h
    obtain ⟨⟨plan, hplan⟩, ⟨rules, hrules⟩, files, hfiles⟩ := h
    exact ⟨_, plan, rules, files, hplan, hrules, hfiles, rfl⟩

theorem ofStaging_eq_error_iff_refused {r : Refusal} :
    Recipe.ofStaging settings request = .error r ↔ Refused settings request r := by
  rw [Recipe.ofStaging_eq_error, plan_eq_error, exists_plan_eq_ok,
    ← SecurityGroups.translatable_iff]
  simp only [← SecurityGroups.firstFault_iff]
  constructor
  · intro hx
    rcases hx with (lacks | ⟨supplied, missing, rfl⟩) |
      ⟨⟨supplied, served⟩, ⟨fault, first, rfl⟩ | ⟨translatable, fault, faulty, rfl⟩⟩
    · exact .supply lacks
    · exact .bundle supplied missing
    · exact .egress supplied served first
    · exact .files supplied served translatable faulty
  · intro h
    cases h with
    | supply lacks => exact .inl (.inl lacks)
    | bundle supplied missing => exact .inl (.inr ⟨supplied, missing, rfl⟩)
    | egress supplied served first => exact .inr ⟨⟨supplied, served⟩, .inl ⟨_, first, rfl⟩⟩
    | files supplied served translatable faulty =>
        exact .inr ⟨⟨supplied, served⟩, .inr ⟨translatable, _, faulty, rfl⟩⟩

/-- Only the missing package of a builder is worth another attempt. -/
theorem Refused.retryable_iff {r : Refusal} (h : Refused settings request r) :
    r.retryable = true
      ↔ request.lifecycle.Built ∧ request.blobstore.packageDownload = none := by
  constructor
  · intro hr
    obtain ⟨artifact, guid, rfl⟩ := Refusal.retryable_iff.1 hr
    cases h with
    | supply lacks =>
        cases lacks with
        | package built missing => exact ⟨built, missing⟩
  · intro hx
    obtain ⟨built, missing⟩ := hx
    have hnot : ¬ request.Supplied := by
      intro hs
      obtain ⟨⟨package, hpackage⟩, -⟩ := hs.locations built
      rw [missing] at hpackage
      cases hpackage
    cases h with
    | supply lacks =>
        rcases (StagingRequest.lacks_iff_of_built built).1 lacks with ⟨-, rfl⟩ | ⟨⟨_, h⟩, -⟩
        · rfl
        · rw [missing] at h
          cases h
    | bundle supplied _ => exact absurd supplied hnot
    | egress supplied _ _ => exact absurd supplied hnot
    | files supplied _ _ _ => exact absurd supplied hnot

/-- **The answers to a staging request.** It gets a recipe exactly when it is supplied, its bundle
is there, its rules have egress rules and its files can be built. It is refused for the first of
these that fails. Another attempt can help exactly when a builder lacks its package. -/
theorem ofStaging_served_or_refused (settings : Settings) (request : StagingRequest) :
    ((∃ recipe, Recipe.ofStaging settings request = .ok recipe) ↔
      request.Supplied ∧ settings.Serves request.lifecycle ∧
        request.securityGroups.Translatable ∧ request.workload.FilesBuild) ∧
    (∀ r, Recipe.ofStaging settings request = .error r ↔ Refused settings request r) ∧
    ((∃ r, Recipe.ofStaging settings request = .error r ∧ r.retryable = true) ↔
      request.lifecycle.Built ∧ request.blobstore.packageDownload = none) := by
  refine ⟨exists_ofStaging_eq_ok, fun r => ofStaging_eq_error_iff_refused, ?_⟩
  constructor
  · intro h
    obtain ⟨r, hr, hretry⟩ := h
    exact (ofStaging_eq_error_iff_refused.1 hr).retryable_iff.1 hretry
  · intro h
    obtain ⟨built, missing⟩ := h
    exact ⟨_, ofStaging_eq_error_iff_refused.2 (.supply (.package built missing)), rfl⟩

end Staging

end CellRecipe
