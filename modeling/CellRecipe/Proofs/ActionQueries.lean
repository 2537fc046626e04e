import CellRecipe.Proofs.ActionLeaves
import Mathlib.Data.List.Basic

/-!
# What is found in a tree

A tree is asked for its downloads and for its first run. One question is answered by collecting from
behind, the other stops at the first answer; both answers are said here by positions instead. A
position is the way down to an action, by the number of the child at each step, and positions are
in the order of a dictionary: an action comes before what stands below it, and what stands below it
before what stands below the next one.

Since downloads and runs have nothing below them, the leaves of a tree in order are those at its
positions in order, each position once. So an action that occurs twice is listed twice, and the
first run is the one at the least position.

## Main definitions

* `Action.at?`: the action at a position.
* `Action.Before`: the order of positions.
* `Action.Lists`: a list of what stands at the positions of a tree, one by one and in order.

## Main results

* `Action.mem_spots_iff`, `Action.pairwise_spots`: the leaves of a tree beside their positions.
* `Action.Lists.head?_eq_some_iff`: what is listed first stands at the least position.
* `Action.findRun_eq`: the search for a run finds the first one among the leaves.
* `Action.queries_by_position`: both questions and their answers.
-/

namespace CellRecipe.Action

/-! ## Positions -/

/-- The actions right below an action, in order. -/
def children : Action → List Action
  | .download _ => []
  | .upload _ => []
  | .run _ => []
  | .timeout a _ _ => [a]
  | .progress a _ _ _ => [a]
  | .attempt a => [a]
  | .serial as => as
  | .parallel as => as

/-- A way down a tree, by the number of the child at each step. -/
abbrev Position := List Nat

/-- The action at a position, if the way there does not leave the tree. -/
def at? : Action → Position → Option Action
  | a, [] => some a
  | a, i :: way => a.children[i]?.bind fun child => child.at? way

/-- The order of positions. -/
def Before (p q : Position) : Prop := List.Lex (· < ·) p q

theorem Before.asymm {p q : Position} (h : Before p q) : ¬ Before q p := List.lt_asymm h

/-- An action with nothing below it that does something by itself. -/
inductive IsLeaf : Action → Prop
  | download (d : Download) : IsLeaf (.download d)
  | upload (u : Upload) : IsLeaf (.upload u)
  | run (r : Run) : IsLeaf (.run r)

/-! ## Leaves beside their positions -/

/-- An action beside its position, seen from the action of which it is below the child `i`. -/
def under (i : Nat) (spot : Position × Action) : Position × Action := (i :: spot.1, spot.2)

mutual

/-- The leaves of a tree in order, each beside its position. -/
def spots : Action → List (Position × Action)
  | .download d => [([], .download d)]
  | .upload u => [([], .upload u)]
  | .run r => [([], .run r)]
  | .timeout a _ _ => a.spots.map (under 0)
  | .progress a _ _ _ => a.spots.map (under 0)
  | .attempt a => a.spots.map (under 0)
  | .serial as => spotsFrom 0 as
  | .parallel as => spotsFrom 0 as

/-- The leaves of several children, the first of which has the number `i`. -/
def spotsFrom (i : Nat) : List Action → List (Position × Action)
  | [] => []
  | a :: rest => a.spots.map (under i) ++ spotsFrom (i + 1) rest

end

/-! ### Several children -/

theorem spotsFrom_singleton (i : Nat) (a : Action) : spotsFrom i [a] = a.spots.map (under i) := by
  rw [spotsFrom, spotsFrom, List.append_nil]

theorem map_snd_spotsFrom (i : Nat) (as : List Action) :
    (spotsFrom i as).map Prod.snd = as.flatMap fun a => a.spots.map Prod.snd := by
  induction as generalizing i with
  | nil => rfl
  | cons a rest ih =>
      rw [spotsFrom, List.map_append, List.map_map, ih, List.flatMap_cons]
      rfl

/-- The leaves of several children stand below one of them each. -/
theorem mem_spotsFrom_iff {i : Nat} {as : List Action} {p : Position} {l : Action} :
    (p, l) ∈ spotsFrom i as ↔
      ∃ j way child, p = (i + j) :: way ∧ as[j]? = some child ∧ (way, l) ∈ child.spots := by
  induction as generalizing i with
  | nil => simp [spotsFrom]
  | cons a rest ih =>
      rw [spotsFrom, List.mem_append, List.mem_map, ih]
      constructor
      · rintro (⟨⟨way, l'⟩, hmem, heq⟩ | ⟨j, way, child, rfl, hchild, hmem⟩)
        · obtain ⟨rfl, rfl⟩ := Prod.mk.inj heq
          exact ⟨0, way, a, rfl, rfl, hmem⟩
        · refine ⟨j + 1, way, child, ?_, hchild, hmem⟩
          rw [Nat.add_right_comm, Nat.add_assoc]
      · rintro ⟨j, way, child, rfl, hchild, hmem⟩
        cases j with
        | zero =>
            obtain rfl : a = child := Option.some.inj hchild
            exact .inl ⟨(way, l), hmem, rfl⟩
        | succ j =>
            refine .inr ⟨j, way, child, ?_, hchild, hmem⟩
            rw [Nat.add_right_comm, Nat.add_assoc]

/-- Children in order have their leaves in order. -/
theorem pairwise_spotsFrom {as : List Action} (i : Nat)
    (h : ∀ a ∈ as, a.spots.Pairwise fun x y => Before x.1 y.1) :
    (spotsFrom i as).Pairwise fun x y => Before x.1 y.1 := by
  induction as generalizing i with
  | nil => exact .nil
  | cons a rest ih =>
      obtain ⟨hfirst, hrest⟩ := List.forall_mem_cons.1 h
      rw [spotsFrom, List.pairwise_append, List.pairwise_map]
      refine ⟨hfirst.imp fun hlt => .cons hlt, ih (i + 1) hrest, ?_⟩
      rintro x hx ⟨p, l⟩ hy
      obtain ⟨spot, -, rfl⟩ := List.mem_map.1 hx
      obtain ⟨j, way, child, rfl, -, -⟩ := mem_spotsFrom_iff.1 hy
      exact .rel (by omega)

/-! ### A tree -/

/-- What holds of an action when it holds of its children holds of every tree. -/
theorem children_induction {motive : Action → Prop}
    (step : ∀ a, (∀ child ∈ a.children, motive child) → motive a) : ∀ a, motive a :=
  fun a => Action.rec (motive_1 := motive) (motive_2 := fun as => ∀ a ∈ as, motive a)
    (fun _ => step _ nofun) (fun _ => step _ nofun) (fun _ => step _ nofun)
    (fun _ _ _ h => step _ (List.forall_mem_singleton.2 h))
    (fun _ _ _ _ h => step _ (List.forall_mem_singleton.2 h))
    (fun _ h => step _ (List.forall_mem_singleton.2 h))
    (fun _ h => step _ h) (fun _ h => step _ h) nofun
    (fun _ _ h hrest => List.forall_mem_cons.2 ⟨h, hrest⟩) a

/-- An action is a leaf, or its leaves are those of its children. -/
theorem isLeaf_or_of_children (a : Action) :
    (a.IsLeaf ∧ a.children = [] ∧ a.spots = [([], a)] ∧ a.leaves = [a]) ∨
      (¬ a.IsLeaf ∧ a.spots = spotsFrom 0 a.children ∧ a.leaves = a.children.flatMap leaves) := by
  cases a with
  | download d => exact .inl ⟨.download d, rfl, rfl, rfl⟩
  | upload u => exact .inl ⟨.upload u, rfl, rfl, rfl⟩
  | run r => exact .inl ⟨.run r, rfl, rfl, rfl⟩
  | timeout a =>
      exact .inr ⟨nofun, (spotsFrom_singleton 0 a).symm, (List.flatMap_singleton ..).symm⟩
  | progress a =>
      exact .inr ⟨nofun, (spotsFrom_singleton 0 a).symm, (List.flatMap_singleton ..).symm⟩
  | attempt a =>
      exact .inr ⟨nofun, (spotsFrom_singleton 0 a).symm, (List.flatMap_singleton ..).symm⟩
  | serial as => exact .inr ⟨nofun, rfl, leavesIn_eq_flatMap as⟩
  | parallel as => exact .inr ⟨nofun, rfl, leavesIn_eq_flatMap as⟩

/-- Without their positions they are the leaves of the tree. -/
theorem map_snd_spots (a : Action) : a.spots.map Prod.snd = a.leaves := by
  induction a using children_induction with
  | step a ih =>
      rcases isLeaf_or_of_children a with ⟨-, -, hspots, hleaves⟩ | ⟨-, hspots, hleaves⟩
      · rw [hspots, hleaves]
        rfl
      · rw [hspots, hleaves, map_snd_spotsFrom]
        exact List.flatMap_congr ih

/-- Every leaf is listed at its position, and nothing else is. -/
theorem mem_spots_iff {a : Action} {p : Position} {l : Action} :
    (p, l) ∈ a.spots ↔ a.at? p = some l ∧ l.IsLeaf := by
  induction a using children_induction generalizing p with
  | step a ih =>
      rcases isLeaf_or_of_children a with ⟨hleaf, hnone, hspots, -⟩ | ⟨hnot, hspots, -⟩
      · rw [hspots, List.mem_singleton, Prod.mk.injEq]
        constructor
        · rintro ⟨rfl, rfl⟩
          exact ⟨rfl, hleaf⟩
        · rintro ⟨hat, -⟩
          cases p with
          | nil => exact ⟨rfl, (Option.some.inj hat).symm⟩
          | cons i way =>
              rw [at?, hnone] at hat
              cases hat
      · rw [hspots, mem_spotsFrom_iff]
        constructor
        · rintro ⟨j, way, child, rfl, hchild, hmem⟩
          obtain ⟨hat, hl⟩ := (ih child (List.mem_of_getElem? hchild)).1 hmem
          refine ⟨?_, hl⟩
          rw [Nat.zero_add, at?, hchild]
          exact hat
        · rintro ⟨hat, hl⟩
          cases p with
          | nil => exact absurd (Option.some.inj hat ▸ hl) hnot
          | cons j way =>
              rw [at?] at hat
              obtain ⟨child, hchild, hat⟩ := Option.bind_eq_some_iff.1 hat
              have hmem := (ih child (List.mem_of_getElem? hchild)).2 ⟨hat, hl⟩
              exact ⟨j, way, child, by rw [Nat.zero_add], hchild, hmem⟩

theorem pairwise_spots (a : Action) : a.spots.Pairwise fun x y => Before x.1 y.1 := by
  induction a using children_induction with
  | step a ih =>
      rcases isLeaf_or_of_children a with ⟨-, -, hspots, -⟩ | ⟨-, hspots, -⟩
      · rw [hspots]
        exact List.pairwise_singleton _ _
      · rw [hspots]
        exact pairwise_spotsFrom 0 ih

/-! ## What a tree is asked for -/

/-- The values of one kind of action in a tree: one for each position at which there is an action of
the kind, in the order of the positions. -/
def Lists {α : Type} (a : Action) (kind : α → Action) (found : List α) : Prop :=
  ∃ places : List (Position × α), places.map Prod.snd = found ∧
    places.Pairwise (fun x y => Before x.1 y.1) ∧
    ∀ p x, (p, x) ∈ places ↔ a.at? p = some (kind x)

variable {α : Type} {a : Action} {kind : α → Action} {found : List α}

/-- The leaves of one kind are listed by a look at all leaves. -/
theorem lists_filterMap {pick : Action → Option α}
    (hpick : ∀ l x, pick l = some x ↔ l = kind x) (hleaf : ∀ x, (kind x).IsLeaf) (a : Action) :
    a.Lists kind (a.leaves.filterMap pick) := by
  refine ⟨a.spots.filterMap fun spot => (pick spot.2).map (Prod.mk spot.1), ?_, ?_, ?_⟩
  · rw [← map_snd_spots, List.map_filterMap, List.filterMap_map]
    simp only [Option.map_map, Function.comp_def, Option.map_id']
  · rw [List.pairwise_filterMap]
    refine (pairwise_spots a).imp ?_
    rintro x y hlt ⟨p, v⟩ hx ⟨q, w⟩ hy
    obtain ⟨_, _, heq⟩ := Option.map_eq_some_iff.1 hx
    obtain ⟨_, _, heq'⟩ := Option.map_eq_some_iff.1 hy
    rw [← (Prod.mk.inj heq).1, ← (Prod.mk.inj heq').1]
    exact hlt
  · intro p x
    rw [List.mem_filterMap]
    constructor
    · rintro ⟨⟨q, l⟩, hspot, hpicked⟩
      obtain ⟨y, hy, heq⟩ := Option.map_eq_some_iff.1 hpicked
      obtain ⟨rfl, rfl⟩ := Prod.mk.inj heq
      obtain rfl : l = kind y := (hpick l y).1 hy
      exact (mem_spots_iff.1 hspot).1
    · intro hat
      refine ⟨(p, kind x), mem_spots_iff.2 ⟨hat, hleaf x⟩, ?_⟩
      rw [(hpick (kind x) x).2 rfl]
      rfl

/-- What is listed first stands at the least position. -/
theorem Lists.head?_eq_some_iff (h : a.Lists kind found) {x : α} :
    found.head? = some x ↔
      ∃ p, a.at? p = some (kind x) ∧ ∀ q y, a.at? q = some (kind y) → q = p ∨ Before p q := by
  obtain ⟨places, rfl, ordered, hmem⟩ := h
  cases places with
  | nil =>
      refine ⟨nofun, ?_⟩
      rintro ⟨p, hat, -⟩
      exact absurd ((hmem p x).2 hat) List.not_mem_nil
  | cons first rest =>
      obtain ⟨p, y⟩ := first
      have least := (List.pairwise_cons.1 ordered).1
      constructor
      · intro hfirst
        obtain rfl : y = x := Option.some.inj hfirst
        refine ⟨p, (hmem p y).1 List.mem_cons_self, fun q z hq => ?_⟩
        rcases List.mem_cons.1 ((hmem q z).2 hq) with heq | hlater
        · exact .inl (Prod.mk.inj heq).1
        · exact .inr (least (q, z) hlater)
      · rintro ⟨q, hat, hleast⟩
        rcases List.mem_cons.1 ((hmem q x).2 hat) with heq | hlater
        · rw [(Prod.mk.inj heq).2]
          rfl
        · -- The first place comes before this one, so this one is not the least.
          have hbefore : Before p q := least (q, x) hlater
          rcases hleast p y ((hmem p y).1 List.mem_cons_self) with rfl | hafter
          · exact absurd hbefore hbefore.asymm
          · exact absurd hafter hbefore.asymm

theorem Lists.head?_eq_none_iff (h : a.Lists kind found) :
    found.head? = none ↔ ∀ p x, a.at? p ≠ some (kind x) := by
  obtain ⟨places, rfl, -, hmem⟩ := h
  rw [List.head?_eq_none_iff, List.map_eq_nil_iff]
  constructor
  · rintro rfl p x hat
    exact absurd ((hmem p x).2 hat) List.not_mem_nil
  · intro hnone
    refine List.eq_nil_iff_forall_not_mem.2 ?_
    rintro ⟨p, x⟩ hplace
    exact hnone p x ((hmem p x).1 hplace)

/-! ### Downloads and runs -/

theorem download?_eq_some_iff (l : Action) (d : Download) :
    download? l = some d ↔ l = .download d := by
  cases l <;> simp [download?]

theorem run?_eq_some_iff (l : Action) (r : Run) : run? l = some r ↔ l = .run r := by
  cases l <;> simp [run?]

theorem lists_downloads (a : Action) : a.Lists .download a.downloads := by
  rw [downloads_eq]
  exact lists_filterMap download?_eq_some_iff .download a

theorem lists_runs (a : Action) : a.Lists .run a.runs := lists_filterMap run?_eq_some_iff .run a

theorem findRunIn_eq_findSome? (as : List Action) : findRunIn as = as.findSome? findRun := by
  induction as with
  | nil => rfl
  | cons a rest ih =>
      rw [findRunIn, ih, List.findSome?_cons]
      cases a.findRun <;> rfl

/-- The search for a run goes through the children of an action. -/
theorem findRun_eq_findSome? {a : Action} (h : ¬ a.IsLeaf) :
    a.findRun = a.children.findSome? findRun := by
  cases a with
  | download d => exact absurd (.download d) h
  | upload u => exact absurd (.upload u) h
  | run r => exact absurd (.run r) h
  | timeout a => exact (List.findSome?_singleton ..).symm
  | progress a => exact (List.findSome?_singleton ..).symm
  | attempt a => exact (List.findSome?_singleton ..).symm
  | serial as => exact findRunIn_eq_findSome? as
  | parallel as => exact findRunIn_eq_findSome? as

/-- The search for a run finds the first one among the leaves. -/
theorem findRun_eq (a : Action) : a.findRun = a.runs.head? := by
  induction a using children_induction with
  | step a ih =>
      rcases isLeaf_or_of_children a with ⟨hleaf, -, -, -⟩ | ⟨hnot, -, hleaves⟩
      · cases hleaf <;> rfl
      · rw [findRun_eq_findSome? hnot, runs, hleaves, List.filterMap_flatMap, List.head?_flatMap,
          ← List.head?_filterMap, ← List.head?_filterMap]
        exact congrArg List.head? (List.filterMap_congr ih)

/-- Several actions fetch what they fetch one by one. -/
theorem downloads_serial (as : List Action) : (serial as).downloads = as.flatMap downloads := by
  calc (serial as).downloads
      = (leavesIn as).filterMap download? := downloads_eq (serial as)
    _ = as.flatMap fun a => a.leaves.filterMap download? := by
        rw [leavesIn_eq_flatMap, List.filterMap_flatMap]
    _ = as.flatMap downloads := List.flatMap_congr fun a _ => (downloads_eq a).symm

theorem downloads_parallel (as : List Action) : (parallel as).downloads = as.flatMap downloads :=
  downloads_serial as

/-- **What is found in a tree.** The downloads are those among the leaves, one for each position at
which there is one and in the order of the positions. The run that is found is the first one among
the leaves, which stands at the least position, and none is found exactly when there is none at any
position. A time limit, messages or an attempt around a tree change neither. The downloads of
several actions, side by side or one after the other, are those of the first ones and then those of
the others, and the run is the first that any of them has. -/
theorem queries_by_position (a : Action) :
    (a.downloads = a.leaves.filterMap download? ∧ a.Lists .download a.downloads) ∧
    a.findRun = (a.leaves.filterMap run?).head? ∧
    (∀ r, a.findRun = some r ↔
      ∃ p, a.at? p = some (.run r) ∧ ∀ q s, a.at? q = some (.run s) → q = p ∨ Before p q) ∧
    (a.findRun = none ↔ ∀ p r, a.at? p ≠ some (.run r)) ∧
    (∀ milliseconds logSource, (timeout a milliseconds logSource).downloads = a.downloads ∧
      (timeout a milliseconds logSource).findRun = a.findRun) ∧
    (∀ start success failure, (progress a start success failure).downloads = a.downloads ∧
      (progress a start success failure).findRun = a.findRun) ∧
    ((attempt a).downloads = a.downloads ∧ (attempt a).findRun = a.findRun) ∧
    (∀ as bs, (serial (as ++ bs)).downloads = (serial as).downloads ++ (serial bs).downloads ∧
      (parallel (as ++ bs)).downloads = (parallel as).downloads ++ (parallel bs).downloads) ∧
    ∀ as, (serial as).findRun = as.findSome? findRun ∧
      (parallel as).findRun = as.findSome? findRun := by
  refine ⟨⟨downloads_eq a, lists_downloads a⟩, findRun_eq a, ?_, ?_, fun _ _ => ⟨rfl, rfl⟩,
    fun _ _ _ => ⟨rfl, rfl⟩, ⟨rfl, rfl⟩, ?_,
    fun as => ⟨findRunIn_eq_findSome? as, findRunIn_eq_findSome? as⟩⟩
  · intro r
    rw [findRun_eq]
    exact (lists_runs a).head?_eq_some_iff
  · rw [findRun_eq]
    exact (lists_runs a).head?_eq_none_iff
  · intro as bs
    simp only [downloads_serial, downloads_parallel, List.flatMap_append, and_self]

end CellRecipe.Action
