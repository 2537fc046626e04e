import CellRecipe.Egress
import CellRecipe.Image
import CellRecipe.ServiceBinding.Files
import CellRecipe.Staging.Schema

/-!
# Refusals

Why a request gets no recipe. A refusal names its cause; the words for it, the party that has to act
and whether another attempt can help follow from the cause.

Only a location that could not be resolved is worth another attempt, with a fresh location.

## Main definitions

* `Refusal.message`, `Refusal.fullMessage`: the words for a refusal.
* `Refusal.category`, `Refusal.retryable`: what can be done about it.
-/

namespace CellRecipe

/-- What is fetched from the blobstore. -/
inductive Artifact where
  | package
  | droplet
  deriving DecidableEq, Inhabited

/-- The name of an artifact. -/
def Artifact.name : Artifact → String
  | .package => "package"
  | .droplet => "droplet"

/-- Why a request gets no recipe. -/
inductive Refusal where
  /-- The staging message breaks its schema. -/
  | violations (found : List Violation)
  /-- The location of an artifact is missing. -/
  | missingDownload (artifact : Artifact) (guid : String)
  /-- The service bindings cannot be turned into files. -/
  | bindings (fault : ServiceBinding.Fault)
  /-- The image reference cannot be taken. -/
  | image (fault : ImageReference.Fault)
  /-- Neither the droplet nor the request names an image. -/
  | noImage (droplet : String)
  /-- The settings have no bundle for the lifecycle. -/
  | noBundle (key : String)
  /-- A rule of a security group gives no egress rule. -/
  | egress (fault : EgressRule.GroupFault)
  deriving DecidableEq

/-- Who has to act on a refusal. -/
inductive RefusalCategory where
  | configuration
  | resolution
  | policyViolation
  deriving DecidableEq

/-- The name of a category. -/
def RefusalCategory.name : RefusalCategory → String
  | .configuration => "Configuration"
  | .resolution => "Resolution"
  | .policyViolation => "PolicyViolation"

namespace Refusal

/-- The words for a refusal. -/
def message : Refusal → String
  | .violations found => "Schema validation failed: " ++ Schema.violationsMessage found
  | .missingDownload artifact guid =>
    "Failed to get blobstore download url for " ++ artifact.name ++ " " ++ guid
  | .bindings fault => fault.message
  | .image fault => "Invalid image reference: " ++ fault.message
  | .noImage droplet => "Invalid image reference: droplet " ++ droplet ++ " has no docker image"
  | .noBundle key => "no compiler defined for requested stack: " ++ key
  | .egress fault =>
    "Invalid rule in security group " ++ fault.group ++ ": " ++ fault.fault.message

/-- The words for the fault behind a refusal, where that is a fault of its own. -/
def cause? : Refusal → Option String
  | .violations found => some (Schema.violationsMessage found)
  | _ => none

/-- The words for a refusal and for what is behind it. -/
def fullMessage (r : Refusal) : String :=
  match r.cause? with
  | some cause => r.message ++ ": " ++ cause
  | none => r.message

/-- Who has to act. -/
def category : Refusal → RefusalCategory
  | .missingDownload _ _ => .resolution
  | .bindings _ => .policyViolation
  | _ => .configuration

/-- Can another attempt help? -/
def retryable (r : Refusal) : Bool := r.category == .resolution

end Refusal

end CellRecipe
