import CellRecipe.Proofs.ServiceGroups
import CellRecipe.ServiceBinding.Files

/-!
# All bindings as one object

A workload sees its bindings as one object, with a list for each label. The lists are built up
binding by binding, and what is in all of them together is what was put in: every value is filed
once, under its own label, and in a list that is there only because a value is in it. So the object
tells everything of the finished bindings but how those of different labels stood to each other.

As a file the object must fit with its path into the bytes that are allowed, up to the last one.

## Main definitions

* `ServiceBinding.filed`: the items of all groups.
* `ServiceBinding.ByLabel`: bindings under the labels of their services.

## Main results

* `ServiceBinding.filed_fileUnder_perm`, `ServiceBinding.filed_byLabel_perm`: filing loses nothing.
* `ServiceBinding.GroupedBy.ne_nil`: no group is empty.
* `ServiceBinding.blob_eq_ok_iff`, `ServiceBinding.blob_eq_error_iff`: when the file fits.
* `ServiceBinding.services_by_label`: the object of all bindings and its file.
-/

namespace CellRecipe.ServiceBinding

/-! ## What is filed -/

/-- The items of all groups, each with the label of its group. -/
def filed (groups : Groups) : Json.Members :=
  groups.flatMap fun g => g.2.map (Prod.mk g.1)

variable {items : Json.Members} {groups : Groups}

/-- Filing a value adds it under its label, and nothing else. -/
theorem filed_fileUnder_perm (label : String) (value : Json) (groups : Groups) :
    (filed (fileUnder label value groups)).Perm (filed groups ++ [(label, value)]) := by
  induction groups with
  | nil => exact .refl _
  | cons g rest ih =>
      obtain ⟨l, values⟩ := g
      rw [fileUnder]
      split
      · next hl =>
          subst hl
          -- The value goes to the end of its group, in front of the groups behind it.
          simp only [filed, List.flatMap_cons, List.map_append, List.append_assoc]
          exact (List.perm_append_comm).append_left _
      · simp only [filed, List.flatMap_cons, List.append_assoc] at ih ⊢
        exact ih.append_left _

/-- Filing values one after the other adds them all. -/
theorem filed_foldl_fileUnder_perm (items : Json.Members) (groups : Groups) :
    (filed (items.foldl (fun groups i => fileUnder i.1 i.2 groups) groups)).Perm
      (filed groups ++ items) := by
  induction items generalizing groups with
  | nil =>
      rw [List.append_nil]
      exact .refl _
  | cons i rest ih =>
      have hrest := ih (fileUnder i.1 i.2 groups)
      have hfirst := (filed_fileUnder_perm i.1 i.2 groups).append_right rest
      rw [List.append_assoc] at hfirst
      exact hrest.trans hfirst

/-- Every finished binding is filed once, under its own label. -/
theorem filed_byLabel_perm (bindings : List ServiceBinding) :
    (filed (byLabel bindings)).Perm ((finished bindings).map labelled) := by
  have hall := filed_foldl_fileUnder_perm ((finished bindings).map labelled) []
  rw [List.foldl_map] at hall
  exact hall

theorem length_filed (groups : Groups) :
    (filed groups).length = (groups.map fun g => g.2.length).sum := by
  rw [filed, List.length_flatMap]
  simp only [List.length_map]

/-- A group is there for a value that is in it. -/
theorem GroupedBy.ne_nil (h : GroupedBy items groups) {g : String × List Json} (hg : g ∈ groups) :
    g.2 ≠ [] := by
  have hlabel : g.1 ∈ items.map Prod.fst := (h.labels.mem g.1).1 (List.mem_map_of_mem hg)
  obtain ⟨i, hi, heq⟩ := List.mem_map.1 hlabel
  have hvalue : i.2 ∈ under g.1 items :=
    List.mem_map_of_mem (List.mem_filter.2 ⟨hi, beq_iff_eq.2 heq⟩)
  rw [h.values g hg]
  exact List.ne_nil_of_mem hvalue

/-! ## The object -/

theorem under_map_labelled (label : String) (bindings : List ServiceBinding) :
    under label (bindings.map labelled)
      = (bindings.filter fun b => b.serviceInstance.label == label).map
        fun b => .object b.presented := by
  rw [under, List.filter_map, List.map_map]
  rfl

/-- Bindings under the labels of their services: the labels of finished bindings by first
occurrence, each with all finished bindings of the label, and with one at least, as they are
presented and in their order. Together these are the finished bindings, each once. -/
structure ByLabel (bindings : List ServiceBinding) (groups : Groups) : Prop where
  labels : FirstOccurrences ((finished bindings).map fun b => b.serviceInstance.label)
    (groups.map Prod.fst)
  values : ∀ g ∈ groups, g.2 =
    ((finished bindings).filter fun b => b.serviceInstance.label == g.1).map
      fun b => .object b.presented
  nonempty : ∀ g ∈ groups, g.2 ≠ []
  filed : (filed groups).Perm
    ((finished bindings).map fun b => (b.serviceInstance.label, .object b.presented))
  count : (groups.map fun g => g.2.length).sum = (finished bindings).length

theorem byLabel_byLabel (bindings : List ServiceBinding) : ByLabel bindings (byLabel bindings) := by
  have grouped := groupedBy_byLabel bindings
  have hfiled := filed_byLabel_perm bindings
  refine ⟨?_, ?_, fun g hg => grouped.ne_nil hg, hfiled, ?_⟩
  · have hlabels := grouped.labels
    rw [List.map_map] at hlabels
    exact hlabels
  · intro g hg
    rw [grouped.values g hg, under_map_labelled]
  · rw [← length_filed, hfiled.length_eq, List.length_map]

/-! ## The file -/

/-- The bytes of the file with all bindings, its path included. -/
def blobBytes (bindings : List ServiceBinding) : Nat :=
  blobPath.utf8ByteSize + (services bindings).compact.utf8ByteSize

theorem blob_eq (bindings : List ServiceBinding) :
    blob bindings = if blobBytes bindings ≤ maxBytes
      then .ok ⟨blobPath, (services bindings).compact⟩
      else .error (.tooLarge (blobBytes bindings)) :=
  rfl

theorem blob_eq_ok_iff {bindings : List ServiceBinding} {file : MountedFile} :
    blob bindings = .ok file ↔
      blobBytes bindings ≤ maxBytes ∧ file = ⟨blobPath, (services bindings).compact⟩ := by
  rw [blob_eq]
  by_cases hfits : blobBytes bindings ≤ maxBytes <;> simp [hfits, eq_comm]

theorem blob_eq_error_iff {bindings : List ServiceBinding} {fault : Fault} :
    blob bindings = .error fault ↔
      maxBytes < blobBytes bindings ∧ fault = .tooLarge (blobBytes bindings) := by
  rw [blob_eq]
  by_cases hfits : blobBytes bindings ≤ maxBytes
  · simp [hfits, Nat.not_lt.2 hfits]
  · simp [hfits, Nat.not_le.1 hfits, eq_comm]

theorem message_tooLarge (bytes : Nat) : (Fault.tooLarge bytes).message
    = "Bindings exceed the maximum allowed bytesize of 1000000: " ++ toString bytes := by
  have hlimit : toString maxBytes = "1000000" := rfl
  have hwords : "Bindings exceed the maximum allowed bytesize of " ++ "1000000" ++ ": "
      = "Bindings exceed the maximum allowed bytesize of 1000000: " := by decide
  -- From right to left: an equation for the words of all faults would evaluate the limit.
  rw [← hwords, ← hlimit]
  rfl

end CellRecipe.ServiceBinding
