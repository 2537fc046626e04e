import CellRecipe.Proofs.BuildpackDownloads

/-!
# What the builder reads in the order of buildpacks

The builder is told the order of buildpacks as one text, with a comma after each key but the last
one, and nothing in a key is escaped. A key is whatever the operator of the platform has chosen, and
the key of a buildpack at a location of its own is the location, which may hold commas. So the
builder finds the keys cut at their own commas, and it finds none in an empty text, which also
stands for one empty key.

For keys without commas the text is as good as the list, the empty list included. These are all the
lists of keys that can be told from the text alone, with one list less: a single empty key.

## Main definitions

* `Staging.orderKeys`: the keys that the builder finds in an order.
* `Staging.cutKeys`: keys cut at their own commas.
* `Staging.Separable`: keys that can be told from their order.

## Main results

* `Staging.orderKeys_intercalate`: the builder finds the keys cut at their commas.
* `Staging.cutKeys_eq_self_iff`: which keys are left as they are.
* `Staging.orderKeys_inj`: two orders have the same keys only if they are the same.
* `Recipe.orders_tell_keys`: when orders tell the keys of their requests.
-/

namespace CellRecipe

namespace Staging

/-! ## Orders as texts -/

/-- The keys in an order: the parts between its commas, and none in an empty one. -/
def orderKeys (order : String) : List String :=
  if order.isEmpty then [] else (Text.splitAll ',' order.toList).map String.ofList

/-- Keys cut at their own commas. One empty key alone is lost. -/
def cutKeys (keys : List String) : List String :=
  if keys = [""] then []
  else keys.flatMap fun key => (Text.splitAll ',' key.toList).map String.ofList

/-- The keys can be told from their order: none of them has a comma, and they are not one empty key
alone. -/
structure Separable (keys : List String) : Prop where
  plain : ∀ key ∈ keys, ',' ∉ key.toList
  notOneEmpty : keys ≠ [""]

theorem toList_intercalate_comma (keys : List String) :
    (String.intercalate "," keys).toList = [','].intercalate (keys.map String.toList) :=
  String.toList_intercalate

/-- An order is empty for no key and for one empty key. -/
theorem intercalate_eq_empty_iff {keys : List String} :
    String.intercalate "," keys = "" ↔ keys = [] ∨ keys = [""] := by
  rw [← String.toList_inj, toList_intercalate_comma]
  cases keys with
  | nil => simp
  | cons key rest =>
      cases rest with
      | nil => simp
      | cons next rest =>
          rw [List.map_cons, List.map_cons, List.intercalate_cons_cons]
          simp

/-- The builder finds the keys cut at their commas. -/
theorem orderKeys_intercalate (keys : List String) :
    orderKeys (String.intercalate "," keys) = cutKeys keys := by
  unfold orderKeys cutKeys
  by_cases hempty : keys = [] ∨ keys = [""]
  · rcases hempty with rfl | rfl
    · rfl
    · rfl
  · have htext : (String.intercalate "," keys).isEmpty = false := by
      rw [← Bool.not_eq_true, String.isEmpty_iff, intercalate_eq_empty_iff]
      exact hempty
    rw [not_or] at hempty
    have hparts : keys.map String.toList ≠ [] := fun h => hempty.1 (List.map_eq_nil_iff.1 h)
    rw [htext, if_neg hempty.2, toList_intercalate_comma,
      Text.splitAll_intercalate_eq_flatMap ',' hparts, List.flatMap_map, List.map_flatMap]
    rfl

/-- The order can be put together again from the keys that are found in it. -/
theorem intercalate_orderKeys (order : String) :
    String.intercalate "," (orderKeys order) = order := by
  unfold orderKeys
  split
  · next hempty => exact (String.isEmpty_iff.1 hempty).symm
  · have hparts : ((Text.splitAll ',' order.toList).map String.ofList).map String.toList
        = Text.splitAll ',' order.toList := by
      rw [List.map_map]
      exact List.map_id'' (fun cs => String.toList_ofList) _
    rw [← String.toList_inj, toList_intercalate_comma, hparts, Text.intercalate_splitAll]

/-- Two orders have the same keys only if they are the same. -/
theorem orderKeys_inj {order order' : String} :
    orderKeys order = orderKeys order' ↔ order = order' := by
  constructor
  · intro h
    rw [← intercalate_orderKeys order, h, intercalate_orderKeys]
  · rintro rfl
    rfl

/-- A key without commas is not cut. -/
theorem cut_of_not_mem {key : String} (h : ',' ∉ key.toList) :
    (Text.splitAll ',' key.toList).map String.ofList = [key] := by
  rw [Text.splitAll_of_not_mem h, List.map_singleton, String.ofList_toList]

theorem comma_not_mem_of_mem_cutKeys {keys : List String} {key : String} (h : key ∈ cutKeys keys) :
    ',' ∉ key.toList := by
  unfold cutKeys at h
  split at h
  · cases h
  · obtain ⟨whole, -, hpart⟩ := List.mem_flatMap.1 h
    obtain ⟨part, hmem, rfl⟩ := List.mem_map.1 hpart
    rw [String.toList_ofList]
    exact Text.not_mem_of_mem_splitAll hmem

/-- Keys are left as they are exactly when they can be told from their order. -/
theorem cutKeys_eq_self_iff {keys : List String} : cutKeys keys = keys ↔ Separable keys := by
  constructor
  · intro h
    refine ⟨fun key hkey => comma_not_mem_of_mem_cutKeys (h.symm ▸ hkey), ?_⟩
    rintro rfl
    cases h
  · rintro ⟨plain, notOneEmpty⟩
    rw [cutKeys, if_neg notOneEmpty]
    have hcut : keys.flatMap (fun key => (Text.splitAll ',' key.toList).map String.ofList)
        = keys.flatMap fun key => [key] :=
      List.flatMap_congr fun key hkey => cut_of_not_mem (plain key hkey)
    rw [hcut, List.flatMap_singleton']

/-- The keys of the buildpacks that count for a request. -/
def effectiveKeys (asked : List Buildpack) (installed : List AdminBuildpack) : List String :=
  (effective asked installed).map Buildpack.orderKey

end Staging

/-! ## Recipes -/

namespace Recipe

open Staging

/-- The orders of buildpacks that the programs of a recipe are told. -/
def buildpackOrders (recipe : Recipe) : List String :=
  recipe.action.runs.flatMap fun run => run.valuesOf "-buildpackOrder"

variable {settings : Settings} {request request' : StagingRequest} {recipe recipe' : Recipe}
  {stack stack' : String} {asked asked' : List Buildpack}

/-- One order is told, with all keys that count. -/
theorem buildpackOrders_eq (h : ofStaging settings request = .ok recipe)
    (hl : request.lifecycle = .buildpack stack asked) :
    recipe.buildpackOrders
      = [String.intercalate "," (effectiveKeys asked request.defaultBuildpacks)] := by
  obtain ⟨s, haction, -, -, horder⟩ := exists_steps_of_buildpack h hl
  have hruns : recipe.action.runs = [s.builder] := by
    rw [haction]
    exact s.runs_tree
  rw [buildpackOrders, hruns, List.flatMap_singleton, horder]
  rfl

/--
**Orders tell the keys that have no commas.** Staging with buildpacks tells the builder one order.
Cut at its commas, with nothing in an empty order, it has the keys that count for the request cut at
their own commas. These are the keys themselves exactly when none of them has a comma and they are
not one empty key alone. So two requests with the same order have the same keys up to commas, and
the very same keys where both can be told from their orders.
-/
theorem orders_tell_keys (h : ofStaging settings request = .ok recipe)
    (hl : request.lifecycle = .buildpack stack asked)
    (h' : ofStaging settings request' = .ok recipe')
    (hl' : request'.lifecycle = .buildpack stack' asked') :
    let keys := effectiveKeys asked request.defaultBuildpacks
    let keys' := effectiveKeys asked' request'.defaultBuildpacks
    ∃ order order', recipe.buildpackOrders = [order] ∧ recipe'.buildpackOrders = [order'] ∧
      orderKeys order = cutKeys keys ∧
      (orderKeys order = keys ↔ Separable keys) ∧
      (order = order' ↔ cutKeys keys = cutKeys keys') ∧
      (Separable keys → Separable keys' → order = order' → keys = keys') := by
  intro keys keys'
  have hsame : String.intercalate "," keys = String.intercalate "," keys'
      ↔ cutKeys keys = cutKeys keys' := by
    rw [← orderKeys_inj, orderKeys_intercalate, orderKeys_intercalate]
  refine ⟨_, _, buildpackOrders_eq h hl, buildpackOrders_eq h' hl', orderKeys_intercalate keys, ?_,
    hsame, ?_⟩
  · rw [← cutKeys_eq_self_iff, ← orderKeys_intercalate]
  · intro hkeys hkeys' horder
    rw [← cutKeys_eq_self_iff.2 hkeys, ← cutKeys_eq_self_iff.2 hkeys']
    exact hsame.1 horder

/-- A request for buildpacks at the locations. -/
def locatedRequest (locations : List String) : StagingRequest :=
  { wiredRequest with lifecycle := .buildpack "cflinuxfs4" (locations.map .custom) }

/-- Two locations that are told apart, and no buildpack at all. -/
theorem orders_tell_keys_located :
    ∃ recipe recipe',
      ofStaging buildpackSettings (locatedRequest ["https://store/own", "fork"]) = .ok recipe ∧
      ofStaging buildpackSettings (locatedRequest []) = .ok recipe' ∧
      recipe.buildpackOrders = ["https://store/own,fork"] ∧ recipe'.buildpackOrders = [""] ∧
      orderKeys "https://store/own,fork" = ["https://store/own", "fork"] ∧
      Separable ["https://store/own", "fork"] ∧ Separable [] := by
  have hserved : ∃ recipe,
      ofStaging buildpackSettings (locatedRequest ["https://store/own", "fork"]) = .ok recipe :=
    ⟨_, rfl⟩
  have hnone : ∃ recipe, ofStaging buildpackSettings (locatedRequest []) = .ok recipe := ⟨_, rfl⟩
  obtain ⟨recipe, h⟩ := hserved
  obtain ⟨recipe', h'⟩ := hnone
  have hplain : Separable ["https://store/own", "fork"] := ⟨by decide, by decide⟩
  obtain ⟨order, order', horder, horder', -, hkeys, -⟩ := orders_tell_keys h rfl h' rfl
  obtain rfl : "https://store/own,fork" = order :=
    List.cons.inj ((buildpackOrders_eq h rfl).symm.trans horder) |>.1
  obtain rfl : "" = order' := List.cons.inj ((buildpackOrders_eq h' rfl).symm.trans horder') |>.1
  exact ⟨recipe, recipe', h, h', horder, horder', hkeys.2 hplain, hplain, ⟨by decide, by decide⟩⟩

/-- A location with a comma looks like two locations. -/
theorem not_all_orders_tell_keys :
    ¬ ∀ (settings : Settings) (request request' : StagingRequest) (recipe recipe' : Recipe)
        (stack stack' : String) (asked asked' : List Buildpack),
        ofStaging settings request = .ok recipe → request.lifecycle = .buildpack stack asked →
        ofStaging settings request' = .ok recipe' →
        request'.lifecycle = .buildpack stack' asked' →
        recipe.buildpackOrders = recipe'.buildpackOrders →
        effectiveKeys asked request.defaultBuildpacks
          = effectiveKeys asked' request'.defaultBuildpacks := by
  intro hall
  have hserved : ∃ recipe,
      ofStaging buildpackSettings (locatedRequest ["https://store/own,fork"]) = .ok recipe :=
    ⟨_, rfl⟩
  have hserved' : ∃ recipe,
      ofStaging buildpackSettings (locatedRequest ["https://store/own", "fork"]) = .ok recipe :=
    ⟨_, rfl⟩
  obtain ⟨recipe, h⟩ := hserved
  obtain ⟨recipe', h'⟩ := hserved'
  have horders : recipe.buildpackOrders = recipe'.buildpackOrders := by
    rw [buildpackOrders_eq h rfl, buildpackOrders_eq h' rfl]
    rfl
  have hkeys := hall _ _ _ _ _ _ _ _ _ h rfl h' rfl horders
  exact absurd hkeys (by decide)

end Recipe

end CellRecipe
