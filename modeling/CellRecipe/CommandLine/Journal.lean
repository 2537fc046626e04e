import CellRecipe.Logging
import CellRecipe.Recipe.Assembly

/-!
# What the program logs

The events on the way from a request to its recipe: the settings that are in force, a staging
message that breaks its schema, a recipe that was built and a request that was refused.

## Main definitions

* `Journal.ofStaging`, `Journal.ofRun`: the events of building a recipe.
* `Journal.ofRefusal`: the event of a command that fails.
-/

namespace CellRecipe.CommandLine.Journal

open Logging

/-- The settings that are in force. -/
def ofSettings (s : Settings) : Event := ⟨.debug, "Configuration: " ++ s.summary, []⟩

/-- The package that a message about buildpacks is for. -/
def packageField (request : StagingRequest) : List (String × String) :=
  match request.lifecycle with
  | .docker _ _ => []
  | _ => [("package_guid", request.package.guid)]

/-- A staging message that breaks its schema. -/
def ofViolations (request : StagingRequest) (found : List Violation) : Event :=
  ⟨.error, "lifecycle-data-schema-error",
    ("staging_guid", request.guid) :: packageField request
      ++ [("error", Schema.violationsMessage found)]⟩

/-- The fields of a built recipe that stand before and after those of its request. -/
def recipeFields (r : Recipe) (kind : LifecycleKind) (own : List (String × String)) :
    List (String × String) :=
  [("guid", r.guid), ("lifecycle", kind.name)] ++ own
    ++ [("egress_rules", toString r.egressRules.length)]

/-- The events of building a staging recipe. -/
def ofStaging (request : StagingRequest) : Except Refusal Recipe → List Event
  | .ok r => [
    ⟨.debug, "built staging recipe", recipeFields r request.lifecycle.kind []⟩,
    ⟨.info, "staging recipe built", [("guid", r.guid)]⟩]
  | .error _ =>
    match Staging.violations request with
    | [] => []
    | found => [ofViolations request found]

/-- The events of building the recipe of a run. -/
def ofRun (request : RunRequest) : Except Refusal Recipe → List Event
  | .ok r => [
    ⟨.debug, "built run recipe",
      recipeFields r request.lifecycle.kind [("droplet", request.selected.1.guid)]⟩,
    ⟨.info, "run recipe built", [("guid", r.guid), ("log_source", r.logSource)]⟩]
  | .error _ => []

/-- A command that fails because of its request. -/
def ofRefusal (r : Refusal) : Event :=
  ⟨.error, "recipe compilation failed",
    [("kind", r.category.name), ("retryable", Settings.flagText r.retryable)]⟩

end CellRecipe.CommandLine.Journal
