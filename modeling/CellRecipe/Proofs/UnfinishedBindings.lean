import CellRecipe.Proofs.AssetDelivery
import CellRecipe.Proofs.BindingFiles
import Mathlib.Data.List.Flatten

/-!
# What unfinished bindings have in a recipe

A binding whose creation is not over, or has failed, does not exist for the service yet. Bindings
come to a recipe in three ways: as directories of files, as one file with all of them, and as volume
mounts. The first two pass over unfinished bindings, and the third one takes every binding. So the
recipe of a staging request, which mounts no volumes, has nothing of an unfinished binding, and the
recipe of a run request has its volume mounts and nothing else.

## Main definitions

* `ServiceBinding.Unfinished`: the creation of a binding has not succeeded.
* `Workload.pruned`: a workload without its unfinished bindings.
* `Recipe.MountsApart`: two recipes that differ in their volume mounts alone.

## Main results

* `Workload.mountedFiles_pruned`: unfinished bindings have no part in the files.
* `VolumeMount.ofBindings_filter_eq_iff`: when bindings can be left out of the volume mounts.
* `Recipe.ofRun_pruned_alike`, `Recipe.ofRun_pruned_eq_iff`: their part in a recipe to run.
* `Recipe.unfinished_only_mount`: their part in all recipes.
-/

namespace CellRecipe

open Outcome

/-! ## Unfinished bindings -/

namespace ServiceBinding

/-- The last that was done to the binding was to create it, and that has not succeeded. -/
def Unfinished (b : ServiceBinding) : Prop :=
  ∃ state, b.lastOperation = some ⟨.create, state⟩ ∧ state ≠ .succeeded

theorem unfinished_iff {b : ServiceBinding} : b.Unfinished ↔ b.createSucceeded = false := by
  unfold Unfinished createSucceeded
  rcases b.lastOperation with _ | ⟨operation, state⟩
  · simp
  · cases operation <;> simp

instance (b : ServiceBinding) : Decidable b.Unfinished := decidable_of_iff _ unfinished_iff.symm

theorem finished_finished (bindings : List ServiceBinding) :
    finished (finished bindings) = finished bindings := by
  simp [finished]

/-- Directories are made of finished bindings. -/
theorem perBinding_finished (bindings : List ServiceBinding) :
    perBinding (finished bindings) = perBinding bindings := by
  rw [perBinding, perBinding, finished_finished]

/-- The one file is made of finished bindings. -/
theorem blob_finished (bindings : List ServiceBinding) :
    blob (finished bindings) = blob bindings := by
  have hservices : services (finished bindings) = services bindings := by
    rw [services, services, byLabel, byLabel, finished_finished]
  rw [blob, blob, hservices]

end ServiceBinding

/-! ## Files and mounts -/

namespace Workload

/-- The workload without its unfinished bindings. -/
def pruned (w : Workload) : Workload :=
  { w with bindings := w.bindings.filter fun b => ¬ b.Unfinished }

theorem bindings_pruned (w : Workload) :
    w.pruned.bindings = ServiceBinding.finished w.bindings := by
  refine List.filter_congr fun b _ => ?_
  simp [ServiceBinding.unfinished_iff]

/-- Whatever the layout, unfinished bindings have no part in the files. -/
theorem mountedFiles_pruned (w : Workload) : w.pruned.mountedFiles = w.mountedFiles := by
  have hfeatures : w.pruned.features = w.features := rfl
  unfold mountedFiles bindingFiles
  rw [hfeatures, bindings_pruned, ServiceBinding.perBinding_finished,
    ServiceBinding.blob_finished]

end Workload

namespace VolumeMount

theorem ofBindings_cons (b : ServiceBinding) (rest : List ServiceBinding) :
    ofBindings (b :: rest) = b.volumes.map ofVolume ++ ofBindings rest :=
  List.flatMap_cons

/-- Fewer bindings have no more mounts. -/
theorem length_ofBindings_filter_le (p : ServiceBinding → Bool) (bindings : List ServiceBinding) :
    (ofBindings (bindings.filter p)).length ≤ (ofBindings bindings).length := by
  have hfewer : (bindings.filter p).Sublist bindings := List.filter_sublist
  exact (hfewer.flatMap _).length_le

/-- Bindings can be left out of the mounts exactly when they have no volumes. -/
theorem ofBindings_filter_eq_iff {p : ServiceBinding → Bool} {bindings : List ServiceBinding} :
    ofBindings (bindings.filter p) = ofBindings bindings
      ↔ ∀ b ∈ bindings, p b = false → b.volumes = [] := by
  induction bindings with
  | nil => simp
  | cons b rest ih =>
      rw [List.forall_mem_cons, ← ih, ofBindings_cons, List.filter_cons]
      cases hp : p b with
      | true =>
          rw [if_pos rfl, ofBindings_cons, List.append_cancel_left_eq]
          simp
      | false =>
          have hlength := length_ofBindings_filter_le p rest
          constructor
          · intro h
            -- The mounts of the rest cannot make up for those of the binding.
            have hlengths := congrArg List.length h
            simp only [Bool.false_eq_true, if_false, List.length_append, List.length_map]
              at hlengths
            have hnone : b.volumes = [] := List.length_eq_zero_iff.1 (by omega)
            rw [hnone] at h
            exact ⟨fun _ => hnone, h⟩
          · intro h
            obtain ⟨hnone, hrest⟩ := h
            rw [hnone rfl]
            exact hrest

end VolumeMount

/-! ## Recipes -/

namespace Recipe

/-- Two recipes that differ in their volume mounts alone: those of finished bindings in the first
one, and those of all bindings in the second one. -/
structure MountsApart (bindings : List ServiceBinding) (pruned whole : Recipe) : Prop where
  rest : { pruned with volumeMounts := whole.volumeMounts } = whole
  pruned : pruned.volumeMounts
    = VolumeMount.ofBindings (bindings.filter fun b => ¬ b.Unfinished)
  whole : whole.volumeMounts = VolumeMount.ofBindings bindings

variable {settings : Settings}

/-- Staging takes nothing from an unfinished binding. -/
theorem ofStaging_pruned (settings : Settings) (request : StagingRequest) :
    ofStaging settings { request with workload := request.workload.pruned }
      = ofStaging settings request := by
  unfold ofStaging mountedFilesOf
  rw [Workload.mountedFiles_pruned]
  rfl

/-- A recipe to run takes at most volume mounts from unfinished bindings. -/
theorem ofRun_pruned_alike (settings : Settings) (request : RunRequest) :
    Alike (MountsApart request.workload.bindings)
      (ofRun settings { request with workload := request.workload.pruned })
      (ofRun settings request) := by
  unfold ofRun mountedFilesOf
  rw [Workload.mountedFiles_pruned]
  refine .bind_same _ fun plan => .bind_same _ fun root => .bind_same _ fun rules =>
    .bind_same _ fun files => .served ?_
  exact ⟨rfl, rfl, rfl⟩

/-- An unfinished binding can be left out of a recipe to run exactly when it has no volumes. -/
theorem ofRun_pruned_eq_iff {request : RunRequest} :
    ofRun settings { request with workload := request.workload.pruned } = ofRun settings request
      ↔ (∃ r, ofRun settings request = .error r) ∨
        ∀ b ∈ request.workload.bindings, b.Unfinished → b.volumes = [] := by
  refine (ofRun_pruned_alike settings request).eq_iff fun pruned whole h => ?_
  have hmounts : pruned = whole ↔ pruned.volumeMounts = whole.volumeMounts := by
    constructor
    · exact congrArg volumeMounts
    · intro hsame
      rw [← h.rest, ← hsame]
  rw [hmounts, h.pruned, h.whole, VolumeMount.ofBindings_filter_eq_iff]
  simp

/--
**Unfinished bindings have their volume mounts in a recipe to run, and nothing else anywhere.**
Leaving them out changes no answer to a staging request. It changes no refusal of a run request
either, and a recipe to run at most in its volume mounts: that recipe stays the same exactly when
no unfinished binding has a volume.
-/
theorem unfinished_only_mount (settings : Settings) :
    (∀ request : StagingRequest,
      ofStaging settings { request with workload := request.workload.pruned }
        = ofStaging settings request) ∧
    ∀ request : RunRequest,
      Alike (MountsApart request.workload.bindings)
        (ofRun settings { request with workload := request.workload.pruned })
        (ofRun settings request) ∧
      (ofRun settings { request with workload := request.workload.pruned } = ofRun settings request
        ↔ (∃ r, ofRun settings request = .error r) ∨
          ∀ b ∈ request.workload.bindings, b.Unfinished → b.volumes = []) := by
  constructor
  · intro request
    exact ofStaging_pruned settings request
  · intro request
    exact ⟨ofRun_pruned_alike settings request, ofRun_pruned_eq_iff⟩

/-- A request to run with a binding that is being created and has a volume. -/
def mountingRun : RunRequest :=
  let shared : Volume :=
    { (default : Volume) with
      containerDir := "/data"
      mode := "rw"
      deviceType := "shared"
      driver := "nfsdriver"
      device := ⟨"nfs-volume", none⟩ }
  { checkedRun with
    workload :=
      { (default : Workload) with
        bindings := [{ ServiceBinding.unfinished with volumes := [shared] }] } }

/-- A binding that is being created may have a part in a recipe. -/
theorem not_all_unfinished_ignored :
    ¬ ∀ (settings : Settings) (request : RunRequest),
        ofRun settings { request with workload := request.workload.pruned }
          = ofRun settings request := by
  intro hall
  have hserved : ∃ recipe, ofRun stackSettings mountingRun = .ok recipe := ⟨_, rfl⟩
  obtain ⟨recipe, hrecipe⟩ := hserved
  rcases ofRun_pruned_eq_iff.1 (hall stackSettings mountingRun) with ⟨r, hr⟩ | hnone
  · rw [hrecipe] at hr
    cases hr
  · have hvolumes := hnone _ List.mem_cons_self ⟨.inProgress, rfl, by decide⟩
    cases hvolumes

end Recipe

end CellRecipe
