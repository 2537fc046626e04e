import CellRecipe.Proofs.JsonText
import CellRecipe.VolumeMount
import Mathlib.Data.List.Forall2

/-!
# Volume mounts lose nothing

Each volume of each binding is mounted, in the order of the bindings and of the volumes in them, and
a mount has all that its volume says of the container. The configuration of a volume is passed on as
text. It is the one part that is not passed on as it is: a configuration without members is written
like none at all, where compact text would have an object without members.

So two configurations are told apart by their texts as far as they say different things. That is a
matter of the reader at the other end, which has to find in compact text the members that have been
written. The reader of this library does, for every configuration that is legible.

## Main definitions

* `VolumeMount.Bare`: configurations that say nothing.
* `VolumeMount.Recovers`: readers that find a configuration in its text.
* `VolumeMount.Keeps`: a mount has what its volume says.

## Main results

* `VolumeMount.recovers_of_legible`: the reader of this library finds legible configurations.
* `VolumeMount.configText_eq_iff`: when two configurations have the same text.
* `VolumeMount.ofBindings_keeps`: the mounts of a list of bindings.
-/

namespace CellRecipe

/-! ## Texts of objects -/

namespace Json

theorem compact_object_ne_empty (ms : Members) : (object ms).compact ≠ "" := by
  rw [Ne, ← String.toList_inj, toList_compact_object]
  exact List.cons_ne_nil _ _

/-- A text with members in it is longer than two braces. -/
theorem compact_object_ne_braces {ms : Members} (h : ms ≠ []) :
    (object ms).compact ≠ "\x7b\x7d" := by
  cases ms with
  | nil => exact absurd rfl h
  | cons m rest =>
      intro htext
      obtain ⟨cs, hcs⟩ := membersText_eq_cons m rest
      rw [← String.toList_inj, toList_compact_object, hcs] at htext
      have hsecond := congrArg (fun t : List Char => t[1]?) htext
      exact absurd hsecond (by simp)

theorem Fields.eq_of_members_eq {c c' : Fields} (h : c.members = c'.members) : c = c' := by
  obtain ⟨ms, hms⟩ := c
  obtain ⟨ms', hms'⟩ := c'
  obtain rfl : ms = ms' := h
  rfl

end Json

namespace VolumeMount

/-! ## Configurations -/

/-- A configuration that says nothing: there is none, or it has no members. -/
def Bare (config : Option Json.Fields) : Prop := ∀ c ∈ config, c.members = []

/-- The reader finds the members of a configuration in its text, in their order. -/
def Recovers (read : String → Option Json) (config : Option Json.Fields) : Prop :=
  ∀ c ∈ config, read (Json.object c.members).compact = some (.object c.members)

/-- The reader of this library finds every configuration that is legible. -/
theorem recovers_of_legible {config : Option Json.Fields}
    (h : ∀ c ∈ config, Json.Legible Json.maxDepth (.object c.members)) :
    Recovers Json.parse? config :=
  fun c hc => Json.parse?_compact (h c hc)

theorem configText_of_bare {config : Option Json.Fields} (h : Bare config) :
    configText config = "" := by
  cases config with
  | none => rfl
  | some c =>
      have hempty : c.isEmpty = true := List.isEmpty_iff.2 (h c rfl)
      rw [configText, if_pos hempty]

theorem configText_of_not_bare {config : Option Json.Fields} (h : ¬ Bare config) :
    ∃ c, config = some c ∧ c.members ≠ [] ∧
      configText config = (Json.object c.members).compact := by
  cases config with
  | none => exact absurd nofun h
  | some c =>
      have hmembers : c.members ≠ [] := by
        intro hnil
        apply h
        intro c' hc'
        obtain rfl := Option.some.inj hc'
        exact hnil
      refine ⟨c, rfl, hmembers, ?_⟩
      have hempty : ¬ c.isEmpty = true := fun he => hmembers (List.isEmpty_iff.1 he)
      rw [configText, if_neg hempty]

theorem configText_eq_empty_iff {config : Option Json.Fields} :
    configText config = "" ↔ Bare config := by
  constructor
  · intro htext
    by_contra h
    obtain ⟨c, -, -, heq⟩ := configText_of_not_bare h
    rw [heq] at htext
    exact Json.compact_object_ne_empty _ htext
  · exact configText_of_bare

/-- No configuration is written as an object without members. -/
theorem configText_ne_braces (config : Option Json.Fields) : configText config ≠ "\x7b\x7d" := by
  by_cases h : Bare config
  · rw [configText_of_bare h]
    decide
  · obtain ⟨c, -, hmembers, heq⟩ := configText_of_not_bare h
    rw [heq]
    exact Json.compact_object_ne_braces hmembers

/-- Two configurations have the same text only if they are the same or say nothing. -/
theorem configText_eq_iff {read : String → Option Json} {config config' : Option Json.Fields}
    (h : Recovers read config) (h' : Recovers read config') :
    configText config = configText config' ↔ Bare config ∧ Bare config' ∨ config = config' := by
  constructor
  · intro htext
    by_cases hbare : Bare config
    · left
      refine ⟨hbare, configText_eq_empty_iff.1 ?_⟩
      rw [← htext, configText_of_bare hbare]
    · right
      have hbare' : ¬ Bare config' := by
        rwa [← configText_eq_empty_iff, ← htext, configText_eq_empty_iff]
      obtain ⟨c, rfl, -, heq⟩ := configText_of_not_bare hbare
      obtain ⟨c', rfl, -, heq'⟩ := configText_of_not_bare hbare'
      have hread : some (Json.object c.members) = some (Json.object c'.members) := by
        rw [← h c rfl, ← h' c' rfl, ← heq, ← heq', htext]
      have hmembers : c.members = c'.members := Json.object.inj (Option.some.inj hread)
      rw [Json.Fields.eq_of_members_eq hmembers]
  · rintro (⟨hbare, hbare'⟩ | rfl)
    · rw [configText_of_bare hbare, configText_of_bare hbare']
    · rfl

/-! ## Mounts -/

/-- A mount has what its volume says. Its configuration is empty exactly where the volume's says
nothing. It is never an object without members, and the reader finds the volume's configuration in
it where there is one with members. -/
structure Keeps (read : String → Option Json) (v : Volume) (m : VolumeMount) : Prop where
  driver : m.driver = v.driver
  containerDir : m.containerDir = v.containerDir
  mode : m.mode = v.mode
  volumeId : m.shared.volumeId = v.device.volumeId
  empty_iff : m.shared.mountConfig = "" ↔ Bare v.device.mountConfig
  neverBraces : m.shared.mountConfig ≠ "\x7b\x7d"
  config : ∀ c ∈ v.device.mountConfig, c.members ≠ [] →
    read m.shared.mountConfig = some (.object c.members)

theorem keeps_ofVolume {read : String → Option Json} {v : Volume}
    (h : Recovers read v.device.mountConfig) : Keeps read v (ofVolume v) where
  driver := rfl
  containerDir := rfl
  mode := rfl
  volumeId := rfl
  empty_iff := configText_eq_empty_iff
  neverBraces := configText_ne_braces _
  config := by
    intro c hc hmembers
    have hbare : ¬ Bare v.device.mountConfig := fun hbare => hmembers (hbare c hc)
    obtain ⟨c', hc', -, heq⟩ := configText_of_not_bare hbare
    obtain rfl : c = c' := Option.some.inj (hc.symm.trans hc')
    exact (congrArg read heq).trans (h c hc)

/-- The volumes of all bindings, in the order of the bindings. -/
def volumes (bindings : List ServiceBinding) : List Volume := bindings.flatMap (·.volumes)

theorem ofBindings_eq_map (bindings : List ServiceBinding) :
    ofBindings bindings = (volumes bindings).map ofVolume := by
  rw [volumes, List.map_flatMap]
  rfl

/-- The volumes with their mounts beside them. -/
def mounted (bindings : List ServiceBinding) : List (Volume × VolumeMount) :=
  (volumes bindings).zip (ofBindings bindings)

theorem eq_of_mem_mounted {bindings : List ServiceBinding} {v : Volume} {m : VolumeMount}
    (h : (v, m) ∈ mounted bindings) : v ∈ volumes bindings ∧ m = ofVolume v := by
  have hpairs : mounted bindings = (volumes bindings).map fun v => (v, ofVolume v) := by
    rw [mounted, ofBindings_eq_map, List.map_prod_left_eq_zip]
  rw [hpairs] at h
  obtain ⟨w, hw, heq⟩ := List.mem_map.1 h
  obtain ⟨rfl, rfl⟩ := Prod.mk.inj heq
  exact ⟨hw, rfl⟩

/--
**Volume mounts lose nothing.** There is one mount for each volume, in order, and it keeps what the
volume says, also its configuration if the reader finds that in compact text. The mounts of two
lists of bindings together are those of the one and then those of the other. Two mounts have the
same text for a configuration exactly when the configurations of their volumes are the same or both
say nothing.
-/
theorem ofBindings_keeps {read : String → Option Json} {bindings : List ServiceBinding}
    (h : ∀ v ∈ volumes bindings, Recovers read v.device.mountConfig) :
    List.Forall₂ (Keeps read) (volumes bindings) (ofBindings bindings) ∧
    (∀ before after, bindings = before ++ after →
      ofBindings bindings = ofBindings before ++ ofBindings after) ∧
    ∀ v m v' m', (v, m) ∈ mounted bindings → (v', m') ∈ mounted bindings →
      (m.shared.mountConfig = m'.shared.mountConfig
        ↔ Bare v.device.mountConfig ∧ Bare v'.device.mountConfig
          ∨ v.device.mountConfig = v'.device.mountConfig) := by
  refine ⟨?_, ?_, ?_⟩
  · rw [ofBindings_eq_map, List.forall₂_map_right_iff, List.forall₂_same]
    exact fun v hv => keeps_ofVolume (h v hv)
  · rintro before after rfl
    exact List.flatMap_append
  · intro v m v' m' hm hm'
    obtain ⟨hv, rfl⟩ := eq_of_mem_mounted hm
    obtain ⟨hv', rfl⟩ := eq_of_mem_mounted hm'
    exact configText_eq_iff (h v hv) (h v' hv')

/-- The configuration of an export. -/
def exportConfig : Json.Fields where
  members := [("source", .string "nfs://server/export"), ("version", .number (.whole 4))]
  distinct := ⟨by decide, trivial, trivial, trivial⟩

/-- A volume with a configuration. -/
def exportVolume (config : Option Json.Fields) : Volume :=
  { (default : Volume) with driver := "nfsdriver", device := ⟨"nfs-volume", config⟩ }

/-- Bindings with a configuration, with an empty one and with none. -/
def exportBindings : List ServiceBinding :=
  [{ (default : ServiceBinding) with
      volumes := [exportVolume (some exportConfig), exportVolume (some .empty)] },
    { (default : ServiceBinding) with volumes := [exportVolume none] }]

/-- The reader of this library finds them all. -/
theorem ofBindings_keeps_export :
    List.Forall₂ (Keeps Json.parse?) (volumes exportBindings) (ofBindings exportBindings) ∧
      (ofBindings exportBindings).map (·.shared.mountConfig)
        = ["\x7b\"source\":\"nfs://server/export\",\"version\":4\x7d", "", ""] := by
  have hconfig : Json.Legible Json.maxDepth (.object exportConfig.members) := by
    apply Json.Legible.object
    intro m hm
    simp only [exportConfig, List.mem_cons, List.not_mem_nil, or_false] at hm
    rcases hm with rfl | rfl
    · exact .string
    · exact .number (Number.readsBack_whole (by decide) (by decide))
  have hempty : Json.Legible Json.maxDepth (.object Json.Fields.empty.members) :=
    .object fun m hm => by cases hm
  have hrecovers : ∀ v ∈ volumes exportBindings, Recovers Json.parse? v.device.mountConfig := by
    intro v hv
    apply recovers_of_legible
    intro c hc
    have hv : v = exportVolume (some exportConfig) ∨ v = exportVolume (some .empty)
        ∨ v = exportVolume none := by
      simpa [volumes, exportBindings] using hv
    rcases hv with rfl | rfl | rfl
    · obtain rfl := Option.some.inj hc
      exact hconfig
    · obtain rfl := Option.some.inj hc
      exact hempty
    · cases hc
  refine ⟨(ofBindings_keeps hrecovers).1, ?_⟩
  decide

end VolumeMount

end CellRecipe
