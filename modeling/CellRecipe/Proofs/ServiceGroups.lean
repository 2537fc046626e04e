import CellRecipe.Json.Printer
import CellRecipe.Proofs.FileSet
import CellRecipe.ServiceBinding.Presentation
import Mathlib.Algebra.GroupWithZero.Nat
import Mathlib.Data.List.Perm.Basic

/-!
# Bindings under the labels of their services

Values are filed one after the other, each at the end of its label's group, and a label gets a group
with its first value. What comes out is said without this process: the labels stand in the order in
which they first occur, and under a label are the values that were filed there, in their order. So
the groups are determined by the labels and by what a filter of the items leaves.

The compact text of an array or an object is as long as its parts and the commas between them,
whatever the order of the parts.

## Main definitions

* `ServiceBinding.under`: the values of one label.
* `ServiceBinding.GroupedBy`: groups of labelled items, said without `fileUnder`.

## Main results

* `ServiceBinding.groupedBy_byLabel`: what grouping by label comes to.
* `Json.byteSize_compact_array`, `Json.byteSize_compact_object`: the bytes of compact texts.
-/

namespace CellRecipe

/-! ## Bytes of compact texts -/

namespace Json

/-- The bytes of joined texts: those of the texts and one separator less than there are texts. -/
theorem utf8ByteSize_intercalate (separator : String) (texts : List String) :
    (String.intercalate separator texts).utf8ByteSize
      = (texts.map String.utf8ByteSize).sum + (texts.length - 1) * separator.utf8ByteSize := by
  induction texts with
  | nil => simp
  | cons text rest ih =>
      cases rest with
      | nil => simp
      | cons next rest =>
          rw [String.intercalate_cons_cons, String.utf8ByteSize_append,
            String.utf8ByteSize_append, ih]
          have hcount : ((text :: next :: rest).length - 1) * separator.utf8ByteSize
              = ((next :: rest).length - 1) * separator.utf8ByteSize
                + separator.utf8ByteSize := by
            rw [← Nat.succ_mul]
            rfl
          rw [hcount, List.map_cons (l := next :: rest), List.sum_cons]
          omega

/-- The bytes of a member in the compact text of its object. -/
def memberBytes (m : String × Json) : Nat :=
  (quoted m.1).utf8ByteSize + 1 + m.2.compact.utf8ByteSize

/-- The bytes of an array: those of its items, the commas between them and the brackets. -/
theorem byteSize_compact_array (items : List Json) :
    (Json.array items).compact.utf8ByteSize
      = (items.map fun j => j.compact.utf8ByteSize).sum + (items.length - 1) + 2 := by
  have hbracket : "[".utf8ByteSize = 1 ∧ "]".utf8ByteSize = 1 ∧ ",".utf8ByteSize = 1 := by decide
  obtain ⟨hopen, hclose, hcomma⟩ := hbracket
  rw [compact, String.utf8ByteSize_append, String.utf8ByteSize_append, utf8ByteSize_intercalate,
    compactItems_eq_map, List.map_map, List.length_map, hopen, hclose, hcomma]
  simp only [Function.comp_def]
  omega

/-- The bytes of an object: those of its members, the commas between them and the braces. -/
theorem byteSize_compact_object (ms : Members) :
    (Json.object ms).compact.utf8ByteSize = (ms.map memberBytes).sum + (ms.length - 1) + 2 := by
  have hbrace : "\x7b".utf8ByteSize = 1 ∧ "\x7d".utf8ByteSize = 1 ∧ ",".utf8ByteSize = 1
      ∧ ":".utf8ByteSize = 1 := by decide
  obtain ⟨hopen, hclose, hcomma, hcolon⟩ := hbrace
  have hmember : ∀ m : String × Json,
      (quoted m.1 ++ ":" ++ compact m.2).utf8ByteSize = memberBytes m := by
    intro m
    rw [String.utf8ByteSize_append, String.utf8ByteSize_append, hcolon, memberBytes]
  rw [compact, String.utf8ByteSize_append, String.utf8ByteSize_append, utf8ByteSize_intercalate,
    compactMembers_eq_map, List.map_map, List.length_map, hopen, hclose, hcomma]
  have hcomp : (String.utf8ByteSize ∘ fun m : String × Json => quoted m.1 ++ ":" ++ compact m.2)
      = memberBytes := funext hmember
  rw [hcomp]
  omega

/-- The items of an array may be put in another order without a change in its bytes. -/
theorem byteSize_compact_array_perm {items items' : List Json} (h : items.Perm items') :
    (Json.array items).compact.utf8ByteSize = (Json.array items').compact.utf8ByteSize := by
  have hsum := (h.map fun j => j.compact.utf8ByteSize).sum_nat
  rw [byteSize_compact_array, byteSize_compact_array, hsum, h.length_eq]

end Json

namespace ServiceBinding

/-! ## Filing -/

/-- The values of one label, in order. -/
def under (label : String) (items : Json.Members) : List Json :=
  (items.filter fun i => i.1 == label).map Prod.snd

/-- Groups of labelled items: a group for each label, by first occurrence, and in it all values of
the label in their order. -/
structure GroupedBy (items : Json.Members) (groups : Groups) : Prop where
  labels : FirstOccurrences (items.map Prod.fst) (groups.map Prod.fst)
  values : ∀ g ∈ groups, g.2 = under g.1 items

variable {label : String} {value : Json} {items : Json.Members} {groups : Groups}

theorem under_append (label : String) (items more : Json.Members) :
    under label (items ++ more) = under label items ++ under label more := by
  rw [under, List.filter_append, List.map_append]
  rfl

theorem under_singleton_self (label : String) (value : Json) :
    under label [(label, value)] = [value] := by
  simp [under]

theorem under_singleton_of_ne {other : String} (h : other ≠ label) (value : Json) :
    under label [(other, value)] = [] := by
  simp [under, h]

theorem under_eq_nil (h : label ∉ items.map Prod.fst) : under label items = [] := by
  have hnone : items.filter (fun i => i.1 == label) = [] := by
    rw [List.filter_eq_nil_iff]
    intro i hi e
    rw [beq_iff_eq] at e
    exact h (List.mem_map.2 ⟨i, hi, e⟩)
  rw [under, hnone]
  rfl

/-- A new label goes to the end. -/
theorem labels_fileUnder (label : String) (value : Json) (groups : Groups) :
    (fileUnder label value groups).map Prod.fst
      = if label ∈ groups.map Prod.fst then groups.map Prod.fst
        else groups.map Prod.fst ++ [label] := by
  induction groups with
  | nil => rfl
  | cons g rest ih =>
      obtain ⟨l, values⟩ := g
      rw [fileUnder]
      by_cases hl : l = label
      · simp [hl]
      · have hne : label ≠ l := fun e => hl e.symm
        rw [if_neg hl, List.map_cons, ih]
        by_cases hmem : label ∈ rest.map Prod.fst <;> simp [hmem, hne]

/-- A group after filing is that of another label, or it has one more value, or it is new. -/
theorem mem_fileUnder {g : String × List Json} (distinct : (groups.map Prod.fst).Nodup)
    (h : g ∈ fileUnder label value groups) :
    g ∈ groups ∧ g.1 ≠ label ∨ (∃ old, (label, old) ∈ groups ∧ g = (label, old ++ [value])) ∨
      label ∉ groups.map Prod.fst ∧ g = (label, [value]) := by
  induction groups with
  | nil => exact .inr (.inr ⟨List.not_mem_nil, List.mem_singleton.1 h⟩)
  | cons first rest ih =>
      obtain ⟨l, values⟩ := first
      obtain ⟨hfresh, hdistinct⟩ := List.nodup_cons.1 distinct
      rw [fileUnder] at h
      by_cases hl : l = label
      · subst hl
        rw [if_pos rfl] at h
        rcases List.mem_cons.1 h with rfl | hg
        · exact .inr (.inl ⟨values, List.mem_cons_self, rfl⟩)
        · have hne : g.1 ≠ l := fun e => hfresh (List.mem_map.2 ⟨g, hg, e⟩)
          exact .inl ⟨List.mem_cons_of_mem _ hg, hne⟩
      · rw [if_neg hl] at h
        rcases List.mem_cons.1 h with rfl | hg
        · exact .inl ⟨List.mem_cons_self, hl⟩
        · rcases ih hdistinct hg with ⟨hg, hne⟩ | ⟨old, hold, rfl⟩ | ⟨hnew, rfl⟩
          · exact .inl ⟨List.mem_cons_of_mem _ hg, hne⟩
          · exact .inr (.inl ⟨old, List.mem_cons_of_mem _ hold, rfl⟩)
          · refine .inr (.inr ⟨?_, rfl⟩)
            rw [List.map_cons, List.mem_cons, not_or]
            exact ⟨fun e => hl e.symm, hnew⟩

/-- Filing one more item. -/
theorem GroupedBy.fileUnder (h : GroupedBy items groups) (label : String) (value : Json) :
    GroupedBy (items ++ [(label, value)]) (fileUnder label value groups) := by
  have hlabels : FirstOccurrences ((items ++ [(label, value)]).map Prod.fst)
      ((ServiceBinding.fileUnder label value groups).map Prod.fst) := by
    rw [labels_fileUnder, List.map_append]
    exact h.labels.add label
  refine ⟨hlabels, fun g hg => ?_⟩
  -- The new item adds to the group of its own label and to no other.
  rw [under_append]
  rcases mem_fileUnder h.labels.nodup hg with ⟨hg, hne⟩ | ⟨old, hold, rfl⟩ | ⟨hnew, rfl⟩
  · rw [under_singleton_of_ne hne.symm, List.append_nil]
    exact h.values g hg
  · have hvalues : old = under label items := h.values (label, old) hold
    rw [under_singleton_self, hvalues]
  · have hnone : label ∉ items.map Prod.fst := fun hl => hnew ((h.labels.mem label).2 hl)
    rw [under_singleton_self, under_eq_nil hnone]
    rfl

/-- Filing items one after the other, whatever was filed before. -/
theorem GroupedBy.foldl_fileUnder (h : GroupedBy items groups) (more : Json.Members) :
    GroupedBy (items ++ more)
      (more.foldl (fun groups i => ServiceBinding.fileUnder i.1 i.2 groups) groups) := by
  induction more generalizing items groups with
  | nil =>
      rw [List.append_nil]
      exact h
  | cons i rest ih =>
      have hrest := ih (h.fileUnder i.1 i.2)
      rw [List.append_assoc] at hrest
      exact hrest

/-- What a binding presents, under the label of its service. -/
def labelled (b : ServiceBinding) : String × Json := (b.serviceInstance.label, .object b.presented)

/-- Bindings are grouped by the labels of their services. -/
theorem groupedBy_byLabel (bindings : List ServiceBinding) :
    GroupedBy ((finished bindings).map labelled) (byLabel bindings) := by
  have hnil : GroupedBy [] [] := ⟨⟨by simp, by simp⟩, by simp⟩
  have hall := hnil.foldl_fileUnder ((finished bindings).map labelled)
  rw [List.foldl_map] at hall
  exact hall

/-! ## Groups by their labels -/

/-- Groups are determined by their labels. -/
theorem GroupedBy.eq_map (h : GroupedBy items groups) :
    groups = (groups.map Prod.fst).map fun label => (label, under label items) := by
  rw [List.map_map]
  conv_lhs => rw [← List.map_id groups]
  refine List.map_congr_left fun g hg => ?_
  exact Prod.ext rfl (h.values g hg)

/-- The members of the object of all groups. -/
def groupMembers (items : Json.Members) (labels : List String) : Json.Members :=
  labels.map fun label => (label, .array (under label items))

theorem keys_groupMembers (items : Json.Members) (labels : List String) :
    Json.keys (groupMembers items labels) = labels := by
  rw [Json.keys, groupMembers, List.map_map]
  exact List.map_id labels

theorem member?_groupMembers (items : Json.Members) (labels : List String) (label : String) :
    Json.member? (groupMembers items labels) label
      = if label ∈ labels then some (.array (under label items)) else none := by
  by_cases h : label ∈ labels
  · rw [if_pos h]
    exact List.lookup_graph _ h
  · rw [if_neg h, Json.member?, List.lookup_eq_none_iff]
    intro m hm
    obtain ⟨l, hl, rfl⟩ := List.mem_map.1 hm
    rw [bne_iff_ne]
    intro e
    exact h (by rwa [e])

/-- All bindings as one object, by the labels of their services. -/
theorem services_eq (bindings : List ServiceBinding) :
    services bindings = .object
      (groupMembers ((finished bindings).map labelled) ((byLabel bindings).map Prod.fst)) := by
  have hgroups := (groupedBy_byLabel bindings).eq_map
  rw [services, groupMembers]
  conv_lhs => rw [hgroups, List.map_map]
  rfl

end ServiceBinding

end CellRecipe
