import CellRecipe.Proofs.ActionRoundTrip
import CellRecipe.Recipe

/-!
# Recipes are read back

A recipe is what the scheduler gets, so its JSON value has to hold all that the recipe says. Each
part is read back field by field. Six fields of a recipe, and a few of its parts, are left out when
there is nothing to say; the reader takes them for absent or empty then, so nothing is lost by it.

## Main results

* `Recipe.reads`: a recipe is read back.
* `Recipe.read_back_as_written`: with it, which fields are left out and how actions are marked.
-/

namespace CellRecipe

open Json Document

/-! ## Parts -/

theorem CachedDependency.reads : Reads CachedDependency.ofJson? CachedDependency.document := by
  intro d
  refine read_then (of?_ofJson_of_keys rfl (by decide)) ?_
  refine read_then (required_eq reads_text rfl) ?_
  refine read_then (required_eq reads_text rfl) ?_
  refine read_then (required_eq reads_text rfl) ?_
  refine read_then (required_eq reads_text rfl) ?_
  refine read_then (withDefault_eq "" reads_text rfl) ?_
  rfl

theorem Sharing.reads : Reads Sharing.ofJson? fun k => .text k.name := by
  intro k
  cases k <;> rfl

theorem Packing.reads : Reads Packing.ofJson? fun k => .text k.name := by
  intro k
  cases k <;> rfl

namespace ImageLayer

theorem labelled (l : ImageLayer) : Labelled l.entries fieldNames where
  named := by simp [entries, fieldNames]
  distinct := by decide

theorem reads : Reads ImageLayer.ofJson? ImageLayer.document := by
  intro l
  have h := l.labelled
  refine read_then h.record ?_
  refine read_then (h.required reads_text rfl) ?_
  refine read_then (h.required reads_text rfl) ?_
  refine read_then (h.required reads_text rfl) ?_
  refine read_then (h.required Sharing.reads rfl) ?_
  refine read_then (h.required Packing.reads rfl) ?_
  refine read_then (h.optional reads_orNull_text rfl) ?_
  refine read_then (h.optional reads_orNull_text rfl) ?_
  rfl

/-- Which fields a layer leaves out. -/
def leftOut (l : ImageLayer) : String → Bool
  | "digest_algorithm" => l.digestAlgorithm.isNone
  | "digest_value" => l.digestValue.isNone
  | _ => false

theorem writesAllBut : WritesAllBut ImageLayer.document fieldNames leftOut := by
  intro l
  refine exists_written l.labelled ?_
  simp [entries, fieldNames, leftOut]

end ImageLayer

theorem PortRange.reads : Reads PortRange.ofJson? PortRange.document := by
  intro r
  refine read_then (of?_ofJson_of_keys rfl (by decide)) ?_
  refine read_then (required_eq reads_word32 rfl) ?_
  refine read_then (required_eq reads_word32 rfl) ?_
  rfl

theorem IcmpKind.reads : Reads IcmpKind.ofJson? IcmpKind.document := by
  intro k
  refine read_then (of?_ofJson_of_keys rfl (by decide)) ?_
  refine read_then (required_eq reads_int32 rfl) ?_
  refine read_then (required_eq reads_int32 rfl) ?_
  rfl

namespace EgressRule

theorem labelled (r : EgressRule) : Labelled r.entries fieldNames where
  named := by simp [entries, fieldNames]
  distinct := by decide

theorem reads : Reads EgressRule.ofJson? EgressRule.document := by
  intro r
  have h := r.labelled
  have hrange := reads_orNull PortRange.reads fun r => by simp [PortRange.document, toJson]
  have hicmp := reads_orNull IcmpKind.reads fun k => by simp [IcmpKind.document, toJson]
  refine read_then h.record ?_
  refine read_then (h.required reads_text rfl) ?_
  refine read_then (h.required (reads_list reads_text) rfl) ?_
  refine read_then (h.list reads_word32 rfl) ?_
  refine read_then (h.optional hrange rfl) ?_
  refine read_then (h.optional hicmp rfl) ?_
  refine read_then (h.withDefault reads_flag rfl) ?_
  refine read_then (h.required (reads_list reads_text) rfl) ?_
  rfl

/-- Which fields a rule leaves out. -/
def leftOut (r : EgressRule) : String → Bool
  | "ports" => r.ports.isEmpty
  | "port_range" => r.portRange.isNone
  | "icmp_info" => r.icmp.isNone
  | _ => false

theorem writesAllBut : WritesAllBut EgressRule.document fieldNames leftOut := by
  intro r
  refine exists_written r.labelled ?_
  simp [entries, fieldNames, leftOut]

end EgressRule

theorem Checksum.reads : Reads Checksum.ofJson? Checksum.document := by
  intro c
  refine read_then (of?_ofJson_of_keys rfl (by decide)) ?_
  refine read_then (required_eq reads_text rfl) ?_
  refine read_then (required_eq reads_text rfl) ?_
  rfl

theorem SharedDevice.reads : Reads SharedDevice.ofJson? SharedDevice.document := by
  intro d
  refine read_then (of?_ofJson_of_keys rfl (by decide)) ?_
  refine read_then (required_eq reads_text rfl) ?_
  refine read_then (required_eq reads_text rfl) ?_
  rfl

theorem VolumeMount.reads : Reads VolumeMount.ofJson? VolumeMount.document := by
  intro m
  refine read_then (of?_ofJson_of_keys rfl (by decide)) ?_
  refine read_then (required_eq reads_text rfl) ?_
  refine read_then (required_eq reads_text rfl) ?_
  refine read_then (required_eq reads_text rfl) ?_
  refine read_then (required_eq SharedDevice.reads rfl) ?_
  rfl

theorem MountedFile.reads : Reads MountedFile.ofJson? MountedFile.document := by
  intro f
  refine read_then (of?_ofJson_of_keys rfl (by decide)) ?_
  refine read_then (required_eq reads_text rfl) ?_
  refine read_then (required_eq reads_text rfl) ?_
  rfl

/-! ## The whole recipe -/

namespace Recipe

theorem labelled (r : Recipe) : Labelled r.entries fieldNames where
  named := by simp [entries, fieldNames]
  distinct := by decide

theorem reads : Reads Recipe.ofJson? Recipe.document := by
  intro r
  have h := r.labelled
  have hchecksum := reads_orNull Checksum.reads fun c => by simp [Checksum.document, toJson]
  have hinstances := reads_orNull reads_word32 fun n => by simp [Document.natural, toJson]
  refine read_then h.record ?_
  refine read_then (h.required reads_text rfl) ?_
  refine read_then (h.required reads_text rfl) ?_
  refine read_then (h.required reads_text rfl) ?_
  refine read_then (h.required reads_text rfl) ?_
  refine read_then (h.required reads_text rfl) ?_
  refine read_then (h.required reads_word64 rfl) ?_
  refine read_then (h.required reads_word64 rfl) ?_
  refine read_then (h.required (reads_field reads_int64) rfl) ?_
  refine read_then (h.required reads_word32 rfl) ?_
  refine read_then (h.required reads_int32 rfl) ?_
  refine read_then (h.required reads_flag rfl) ?_
  refine read_then (h.required Action.reads rfl) ?_
  refine read_then (h.required (reads_list EnvironmentVariable.reads) rfl) ?_
  refine read_then (h.required (reads_list CachedDependency.reads) rfl) ?_
  refine read_then (h.required (reads_list ImageLayer.reads) rfl) ?_
  refine read_then (h.required (reads_list EgressRule.reads) rfl) ?_
  refine read_then (h.required (reads_list reads_text) rfl) ?_
  refine read_then (h.required (reads_field (reads_list reads_text)) rfl) ?_
  refine read_then (h.optional hchecksum rfl) ?_
  refine read_then (h.required (reads_field (reads_table reads_text)) rfl) ?_
  refine read_then (h.required (reads_table (reads_field reads_text)) rfl) ?_
  refine read_then (h.required (reads_list VolumeMount.reads) rfl) ?_
  refine read_then (h.required (reads_list MountedFile.reads) rfl) ?_
  refine read_then (h.optional reads_orNull_text rfl) ?_
  refine read_then (h.required reads_text rfl) ?_
  refine read_then (h.required reads_text rfl) ?_
  refine read_then (h.required reads_text rfl) ?_
  refine read_then (h.optional reads_orNull_text rfl) ?_
  refine read_then (h.optional reads_orNull_text rfl) ?_
  refine read_then (h.list reads_word32 rfl) ?_
  refine read_then (h.optional hinstances rfl) ?_
  rfl

/-- Which fields a recipe leaves out. -/
def leftOut (r : Recipe) : String → Bool
  | "checksum" => r.checksum.isNone
  | "completion_callback_url" => r.callbackUrl.isNone
  | "image_username" => r.imageUsername.isNone
  | "image_password" => r.imagePassword.isNone
  | "ports" => r.ports.isEmpty
  | "instances" => r.instances.isNone
  | _ => false

theorem writesAllBut : WritesAllBut Recipe.document fieldNames leftOut := by
  intro r
  refine exists_written r.labelled ?_
  simp [entries, fieldNames, leftOut]

/--
**What is written is read back**: the JSON value of a recipe is read as the recipe, and so is every
tree of actions in it. Fields are left out exactly when they have no value, lists of ports exactly
when they are empty, and all other fields are there. An action is an object with one member, and
whatever is read under the key of that member is an action of the kind that goes by the key.
-/
theorem read_back_as_written :
    Reads Recipe.ofJson? Recipe.document ∧
    WritesAllBut Recipe.document Recipe.fieldNames Recipe.leftOut ∧
    WritesAllBut EgressRule.document EgressRule.fieldNames EgressRule.leftOut ∧
    WritesAllBut ImageLayer.document ImageLayer.fieldNames ImageLayer.leftOut ∧
    WritesAllBut Download.document Download.fieldNames Download.leftOut ∧
    WritesAllBut ResourceLimits.document ResourceLimits.fieldNames ResourceLimits.leftOut ∧
    ∀ a : Action,
      Action.ofJson? (.ofJson a.document.toJson) = some a ∧
      (∃ content, a.document.toJson = .object [(a.key, content)]) ∧
      ∀ name content, Action.ofJson? (.object [(name, content)]) = some a → a.key = name := by
  refine ⟨reads, writesAllBut, EgressRule.writesAllBut, ImageLayer.writesAllBut,
    Download.writesAllBut, ResourceLimits.writesAllBut, ?_⟩
  intro a
  have hkey : ∀ name content, Action.ofJson? (.object [(name, content)]) = some a → a.key = name :=
    fun _ _ h => Action.key_of_ofJson? h
  exact ⟨a.reads, a.toJson_document, hkey⟩

/-- An attempt at nothing, which is read under its key. -/
theorem read_back_as_written_attempt :
    Action.ofJson? (.object [("try_action", .object [("action", .object [("serial_action",
      .object [("actions", .array [])])])])]) = some (.attempt (.serial [])) ∧
    (Action.attempt (.serial [])).key = "try_action" := by
  obtain ⟨-, -, -, -, -, -, hactions⟩ := read_back_as_written
  obtain ⟨hreads, -, hkey⟩ := hactions (.attempt (.serial []))
  exact ⟨hreads, hkey _ _ hreads⟩

end Recipe

end CellRecipe
