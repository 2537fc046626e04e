import CellRecipe.Action
import CellRecipe.Asset
import CellRecipe.Refusal
import CellRecipe.Settings
import CellRecipe.Text.Split

/-!
# Plans

What a lifecycle contributes to a recipe: an action and the assets that it needs. Every plan needs
the bundle of its lifecycle, a program that the settings name by a key. The bundle is fetched once
per cell, or is a layer where assets are declared instead of fetched.

## Main definitions

* `Plan.withBundle`: a plan together with the bundle of its lifecycle.
-/

namespace CellRecipe

/-- What a lifecycle contributes to a recipe. -/
structure Plan where
  action : Action
  environment : List EnvironmentVariable := []
  cachedDependencies : List CachedDependency := []
  imageLayers : List ImageLayer := []
  imageCredentials : Option ImageCredentials := none
  deriving Inhabited

/-- How the bundle of a lifecycle is found, kept and unpacked. -/
structure Bundle where
  key : String
  cacheKey : String
  target : String
  deriving DecidableEq, Inhabited

namespace Bundle

/-- The bundle of a lifecycle that depends on the stack. -/
def ofStack (lifecycle stack target : String) : Bundle :=
  ⟨lifecycle ++ "/" ++ stack, lifecycle ++ "-" ++ stack ++ "-lifecycle", target⟩

/-- The text without the slashes at its end. -/
def trimSlashes (s : String) : String :=
  String.ofList (s.toList.reverse.dropWhile (· == '/')).reverse

/-- Where a bundle is fetched from: its own location, or its name on the file server. -/
def location (settings : Settings) (bundle : String) : String :=
  if Text.hasScheme bundle.toList then bundle
  else trimSlashes settings.fileServerUrl ++ "/v1/static/" ++ bundle

end Bundle

namespace Plan

/-- The plan with a bundle: a layer where assets are declared, else a dependency. -/
def bundled (settings : Settings) (b : Bundle) (bundle : String) (p : Plan) : Plan :=
  let url := Bundle.location settings bundle
  if settings.declarativeAssets then
    let layer : ImageLayer :=
      { name := b.cacheKey, url := url, target := b.target, sharing := .shared }
    { p with imageLayers := p.imageLayers ++ [layer] }
  else
    let dependency : CachedDependency :=
      { source := url, target := b.target, cacheKey := b.cacheKey }
    { p with cachedDependencies := p.cachedDependencies ++ [dependency] }

/-- The plan with the bundle of its lifecycle, which the settings have to name. -/
def withBundle (settings : Settings) (b : Bundle) (p : Plan) : Except Refusal Plan :=
  match settings.bundle? b.key with
  | none => .error (.noBundle b.key)
  | some bundle => .ok (p.bundled settings b bundle)

/-- The plan as it is written. -/
def document (p : Plan) : Document :=
  .record [
    ("action", p.action.document),
    ("environment_variables", .list (p.environment.map EnvironmentVariable.document)),
    ("cached_dependencies", .list (p.cachedDependencies.map CachedDependency.document)),
    ("image_layers", .list (p.imageLayers.map ImageLayer.document)),
    ("image_credentials", .orNull ImageCredentials.document p.imageCredentials)]

end Plan

end CellRecipe
