import CellRecipe.Proofs.Assembly

/-!
# The conditions of a recipe

What a request must meet to get a recipe, apart from the steps that check it: the settings have the
bundle of the lifecycle, every rule of the security groups has an egress rule, and the files of the
bindings can be built. Requests to stage and requests to run share these conditions, and each of the
two has more of its own for what its lifecycle needs.

## Main definitions

* `Lifecycle.Built`: the filesystem is built from a package.
* `Settings.Serves`: the settings have the bundle of a lifecycle.
* `SecurityGroups.Translatable`, `SecurityGroups.FirstFault`: the two answers of the egress rules.
* `Workload.FilesBuild`: the bindings can be turned into files.
-/

namespace CellRecipe

/-! ## The conditions -/

/-- The lifecycle builds the filesystem from a package, as buildpacks of both kinds do. -/
def Lifecycle.Built (l : Lifecycle) : Prop := l.kind = .buildpack ∨ l.kind = .cnb

/-- The key under which settings name the bundle of a lifecycle. -/
def Lifecycle.bundleKey : Lifecycle → String
  | .buildpack stack _ => "buildpack/" ++ stack
  | .docker _ _ => "docker"
  | .cnb stack _ _ => "cnb/" ++ stack

/-- The settings name a bundle for the lifecycle. -/
def Settings.Serves (s : Settings) (l : Lifecycle) : Prop :=
  ∃ bundle, s.bundles.get? l.bundleKey = some bundle

/-- Every rule of every group has an egress rule. -/
def SecurityGroups.Translatable (g : SecurityGroups) : Prop :=
  ∀ group ∈ g.defaults ++ g.space, ∀ rule ∈ group.rules,
    ∃ translated, EgressRule.ofRule group rule = .ok translated

/-- The fault of the first rule that has no egress rule. -/
def SecurityGroups.FirstFault (g : SecurityGroups) (fault : EgressRule.GroupFault) : Prop :=
  ∃ before group rule after, g.ruled = before ++ (group, rule) :: after ∧
    (∀ p ∈ before, ∃ translated, EgressRule.ofRule p.1 p.2 = .ok translated) ∧
    fault.group = group.guid ∧ EgressRule.ofRule group rule = .error fault.fault

/-- The bindings of a workload can be turned into files. -/
def Workload.FilesBuild (w : Workload) : Prop := ∃ files, w.mountedFiles = .ok files

namespace Settings

variable {settings : Settings} {l : Lifecycle} {key : String}

theorem serves_iff (h : key = l.bundleKey) :
    (∃ bundle, settings.bundle? key = some bundle) ↔ settings.Serves l := by
  rw [h]
  rfl

theorem not_serves_iff (h : key = l.bundleKey) :
    settings.bundle? key = none ↔ ¬ settings.Serves l := by
  rw [← serves_iff h, Option.eq_none_iff_forall_ne_some, not_exists]

end Settings

theorem SecurityGroups.translatable_iff {g : SecurityGroups} :
    g.Translatable ↔ ∃ rules, EgressRule.ofGroups g = .ok rules := by
  rw [EgressRule.exists_ofGroups_eq_ok, Translatable]
  constructor
  · intro h p hp
    obtain ⟨group, hgroup, hp⟩ := List.mem_flatMap.1 hp
    obtain ⟨rule, hrule, rfl⟩ := List.mem_map.1 hp
    exact h group hgroup rule hrule
  · intro h group hgroup rule hrule
    have hp : (group, rule) ∈ g.ruled :=
      List.mem_flatMap.2 ⟨group, hgroup, List.mem_map.2 ⟨rule, hrule, rfl⟩⟩
    exact h (group, rule) hp

theorem SecurityGroups.firstFault_iff {g : SecurityGroups} {fault : EgressRule.GroupFault} :
    g.FirstFault fault ↔ EgressRule.ofGroups g = .error fault :=
  EgressRule.ofGroups_eq_error.symm

theorem Lifecycle.built_or_docker (l : Lifecycle) :
    l.Built ∨ ∃ image credentials, l = .docker image credentials := by
  cases l with
  | buildpack stack asked => exact .inl (.inl rfl)
  | docker image credentials => exact .inr ⟨image, credentials, rfl⟩
  | cnb stack asked credentials => exact .inl (.inr rfl)

theorem Lifecycle.not_built_docker (image : Option String)
    (credentials : Option ImageCredentials) : ¬ Built (.docker image credentials) := by
  rintro (h | h) <;> cases h

end CellRecipe
