import CellRecipe.Action

/-!
# Leaves of action trees

What a tree of actions does in the end are its leaves: downloads, uploads and runs. They are listed
from left to right, and those whose failure does not matter are listed once more on their own. Both
lists go through a sequence of actions one after the other, so the leaves of a tree that was put
together from parts are those of the parts.

## Main definitions

* `Action.leaves`: the leaves of a tree, in order.
* `Action.attempted`: the leaves that stand under an attempt.
* `Action.runs`, `Action.uploads`: the runs and the uploads among the leaves.

## Main results

* `Action.leavesIn_eq_flatMap`, `Action.attemptedIn_eq_flatMap`: several trees.
* `Action.downloads_eq`: what a tree fetches are the downloads among its leaves.
-/

namespace CellRecipe.Action

mutual

/-- The leaves of a tree, in order. -/
def leaves : Action → List Action
  | .download d => [.download d]
  | .upload u => [.upload u]
  | .run r => [.run r]
  | .timeout a _ _ => a.leaves
  | .progress a _ _ _ => a.leaves
  | .attempt a => a.leaves
  | .serial as => leavesIn as
  | .parallel as => leavesIn as

/-- The leaves of several trees. -/
def leavesIn : List Action → List Action
  | [] => []
  | a :: rest => a.leaves ++ leavesIn rest

end

mutual

/-- The leaves that stand under an attempt, in order. -/
def attempted : Action → List Action
  | .attempt a => a.leaves
  | .timeout a _ _ => a.attempted
  | .progress a _ _ _ => a.attempted
  | .serial as => attemptedIn as
  | .parallel as => attemptedIn as
  | .download _ => []
  | .upload _ => []
  | .run _ => []

/-- The leaves of several trees that stand under an attempt. -/
def attemptedIn : List Action → List Action
  | [] => []
  | a :: rest => a.attempted ++ attemptedIn rest

end

/-- The download that an action is. -/
def download? : Action → Option Download
  | .download d => some d
  | _ => none

/-- The run that an action is. -/
def run? : Action → Option Run
  | .run r => some r
  | _ => none

/-- The upload that an action is. -/
def upload? : Action → Option Upload
  | .upload u => some u
  | _ => none

/-- The runs of a tree, in order. -/
def runs (a : Action) : List Run := a.leaves.filterMap run?

/-- The uploads of a tree, in order. -/
def uploads (a : Action) : List Upload := a.leaves.filterMap upload?

/-! ## Several trees -/

theorem leavesIn_eq_flatMap (as : List Action) : leavesIn as = as.flatMap leaves := by
  induction as with
  | nil => rfl
  | cons a rest ih => rw [leavesIn, ih, List.flatMap_cons]

theorem attemptedIn_eq_flatMap (as : List Action) : attemptedIn as = as.flatMap attempted := by
  induction as with
  | nil => rfl
  | cons a rest ih => rw [attemptedIn, ih, List.flatMap_cons]

/-! ## Downloads -/

mutual

/-- Downloads are collected leaf by leaf, the last one first. -/
theorem collectDownloads_eq (found : List Download) : ∀ a : Action,
    a.collectDownloads found = (a.leaves.filterMap download?).reverse ++ found
  | .download _ => rfl
  | .upload _ => rfl
  | .run _ => rfl
  | .timeout a _ _ => collectDownloads_eq found a
  | .progress a _ _ _ => collectDownloads_eq found a
  | .attempt a => collectDownloads_eq found a
  | .serial as => collectDownloadsIn_eq found as
  | .parallel as => collectDownloadsIn_eq found as

theorem collectDownloadsIn_eq (found : List Download) : ∀ as : List Action,
    collectDownloadsIn found as = ((leavesIn as).filterMap download?).reverse ++ found
  | [] => rfl
  | a :: rest => by
      rw [collectDownloadsIn, collectDownloads_eq found a, collectDownloadsIn_eq _ rest, leavesIn,
        List.filterMap_append, List.reverse_append, List.append_assoc]

end

/-- What a tree fetches are the downloads among its leaves. -/
theorem downloads_eq (a : Action) : a.downloads = a.leaves.filterMap download? := by
  rw [downloads, collectDownloads_eq, List.append_nil, List.reverse_reverse]

/-! ## Leaves of one kind -/

variable {α : Type}

/-- Trees of one leaf each. -/
theorem flatMap_leaves_map {f g : α → Action} (h : ∀ x, (f x).leaves = [g x]) (xs : List α) :
    (xs.map f).flatMap leaves = xs.map g := by
  rw [List.flatMap_map, List.map_eq_flatMap]
  simp only [h]

theorem flatMap_attempted_map_nil {f : α → Action} (h : ∀ x, (f x).attempted = []) (xs : List α) :
    (xs.map f).flatMap attempted = [] := by
  rw [List.flatMap_map, List.flatMap_eq_nil_iff]
  exact fun x _ => h x

theorem filterMap_map_eq_nil {β : Type} {f : Action → Option β} {g : α → Action}
    (h : ∀ x, f (g x) = none) (xs : List α) : (xs.map g).filterMap f = [] := by
  rw [List.filterMap_map, List.filterMap_eq_nil_iff]
  exact fun x _ => h x

theorem filterMap_download?_map (ds : List Download) :
    (ds.map Action.download).filterMap download? = ds := by
  rw [List.filterMap_map]
  exact List.filterMap_some

end CellRecipe.Action
