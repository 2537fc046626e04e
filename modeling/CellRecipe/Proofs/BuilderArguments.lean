import CellRecipe.Staging.Pipeline
import CellRecipe.Text.Split
import Mathlib.Data.List.Basic

/-!
# Arguments of the builder

The builder of buildpacks takes its arguments as flags with values, `-flag=value`. A value may hold
any text, also one that looks like a flag, so an argument is cut at its first equals sign, which no
flag has in its name. The values that a flag is given are then those of the list of flags.

## Main definitions

* `Run.valuesOf`: the values that the arguments of a run give to a flag.
* `Staging.buildpackFlags`: the flags of the builder of buildpacks.

## Main results

* `Staging.valuesOf_buildpackBuilder`: the values of the builder's flags.
-/

namespace CellRecipe

/-- The value that an argument gives to a flag, if it is for that flag. -/
def Run.valueOf? (flag arg : String) : Option String :=
  match Text.splitFirst '=' arg.toList with
  | some (name, value) => if String.ofList name = flag then some (.ofList value) else none
  | none => none

/-- The values that the arguments of a run give to a flag, in order. -/
def Run.valuesOf (r : Run) (flag : String) : List String := r.args.filterMap (valueOf? flag)

theorem Run.valueOf?_arg {name : String} (hname : '=' ∉ name.toList) (flag value : String) :
    valueOf? flag (name ++ "=" ++ value) = if name = flag then some value else none := by
  have harg : (name ++ "=" ++ value).toList = name.toList ++ '=' :: value.toList := by simp
  unfold valueOf?
  rw [harg, Text.splitFirst_append hname]
  simp

namespace Staging

/-- The flags of the builder of buildpacks with their values. -/
def buildpackFlags (settings : Settings) (m : StagingMessage) : List (String × String) := [
  ("-buildpackOrder", buildpackOrder m),
  ("-skipCertVerify", Settings.flagText settings.skipCertVerify),
  ("-skipDetect", Settings.flagText (m.buildpacks.any BuildpackEntry.skipDetect)),
  ("-buildDir", Container.appDir),
  ("-outputDroplet", Container.outputDroplet),
  ("-outputMetadata", Container.resultFile),
  ("-outputBuildArtifactsCache", Container.outputCacheDir),
  ("-buildpacksDir", Container.buildpacksDir),
  ("-buildArtifactsCacheDir", Container.cacheDir)]

theorem buildpackArgs_eq (settings : Settings) (m : StagingMessage) :
    buildpackArgs settings m
      = (buildpackFlags settings m).map fun f => f.1 ++ "=" ++ f.2 := rfl

theorem equals_not_mem_buildpackFlags {settings : Settings} {m : StagingMessage}
    {f : String × String} (h : f ∈ buildpackFlags settings m) : '=' ∉ f.1.toList := by
  have hname : f.1 ∈ (buildpackFlags settings m).map (·.1) := List.mem_map_of_mem h
  have hall : ∀ name ∈ ["-buildpackOrder", "-skipCertVerify", "-skipDetect", "-buildDir",
      "-outputDroplet", "-outputMetadata", "-outputBuildArtifactsCache", "-buildpacksDir",
      "-buildArtifactsCacheDir"], '=' ∉ name.toList := by decide
  exact hall f.1 hname

/-- A flag has the values that stand beside it. -/
theorem valuesOf_buildpackBuilder (settings : Settings) (request : StagingRequest)
    (m : StagingMessage) (flag : String) :
    (buildpackBuilder settings request m).valuesOf flag
      = (buildpackFlags settings m).filterMap fun f => if f.1 = flag then some f.2 else none := by
  show (buildpackArgs settings m).filterMap (Run.valueOf? flag) = _
  rw [buildpackArgs_eq, List.filterMap_map]
  refine List.filterMap_congr fun f hf => ?_
  exact Run.valueOf?_arg (equals_not_mem_buildpackFlags hf) flag f.2

end Staging

end CellRecipe
