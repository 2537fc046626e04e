import CellRecipe.Action
import CellRecipe.Proofs.OptionalEntries

/-!
# Actions are read back

A tree of actions is written inside out: every action is an object with one member, and the key of
that member says which of the eight kinds it is. The reader looks at the key first, so two kinds
with the same fields are never taken for each other. That a whole tree is read back is shown by
induction on the tree, with a list of actions beside it.

## Main definitions

* `Action.key`: the name under which an action is written.

## Main results

* `Action.reads`: a tree of actions is read back.
* `Action.toJson_document`, `Action.key_of_ofJson?`: the key of what is written and of what is read.
-/

namespace CellRecipe

open Json Document

/-! ## Leaves -/

theorem EnvironmentVariable.reads :
    Reads EnvironmentVariable.ofJson? EnvironmentVariable.document := by
  intro v
  refine read_then (of?_ofJson_of_keys rfl (by decide)) ?_
  refine read_then (required_eq reads_text rfl) ?_
  refine read_then (required_eq reads_text rfl) ?_
  rfl

namespace Download

theorem labelled (d : Download) : Labelled d.entries fieldNames where
  named := by simp [entries, fieldNames]
  distinct := by decide

theorem reads : Reads Download.ofJson? Download.document := by
  intro d
  have h := d.labelled
  refine read_then h.record ?_
  refine read_then (h.required reads_text rfl) ?_
  refine read_then (h.required reads_text rfl) ?_
  refine read_then (h.required reads_text rfl) ?_
  refine read_then (h.required reads_text rfl) ?_
  refine read_then (h.required reads_text rfl) ?_
  refine read_then (h.optional reads_orNull_text rfl) ?_
  refine read_then (h.optional reads_orNull_text rfl) ?_
  rfl

/-- Which fields a download leaves out. -/
def leftOut (d : Download) : String → Bool
  | "checksum_algorithm" => d.checksumAlgorithm.isNone
  | "checksum_value" => d.checksumValue.isNone
  | _ => false

theorem writesAllBut : WritesAllBut Download.document fieldNames leftOut := by
  intro d
  refine exists_written d.labelled ?_
  simp [entries, fieldNames, leftOut]

end Download

theorem Upload.reads : Reads Upload.ofJson? Upload.document := by
  intro u
  refine read_then (of?_ofJson_of_keys rfl (by decide)) ?_
  refine read_then (required_eq reads_text rfl) ?_
  refine read_then (required_eq reads_text rfl) ?_
  refine read_then (required_eq reads_text rfl) ?_
  refine read_then (required_eq reads_text rfl) ?_
  rfl

namespace ResourceLimits

theorem labelled (l : ResourceLimits) : Labelled l.entries fieldNames where
  named := by simp [entries, fieldNames]
  distinct := by decide

theorem reads : Reads ResourceLimits.ofJson? ResourceLimits.document := by
  intro l
  have h := l.labelled
  have hfiles := reads_orNull reads_word64 fun n => by simp [Document.natural, toJson]
  refine read_then h.record ?_
  refine read_then (h.optional hfiles rfl) ?_
  rfl

/-- Which fields limits leave out. -/
def leftOut (l : ResourceLimits) : String → Bool
  | "nofile" => l.openFiles.isNone
  | _ => false

theorem writesAllBut : WritesAllBut ResourceLimits.document fieldNames leftOut := by
  intro l
  refine exists_written l.labelled ?_
  simp [entries, fieldNames, leftOut]

end ResourceLimits

theorem Run.reads : Reads Run.ofJson? Run.document := by
  intro r
  refine read_then (of?_ofJson_of_keys rfl (by decide)) ?_
  refine read_then (required_eq reads_text rfl) ?_
  refine read_then (required_eq (reads_list reads_text) rfl) ?_
  refine read_then (withDefault_eq "" reads_text rfl) ?_
  refine read_then (required_eq (reads_list EnvironmentVariable.reads) rfl) ?_
  refine read_then (required_eq ResourceLimits.reads rfl) ?_
  refine read_then (required_eq reads_text rfl) ?_
  refine read_then (withDefault_eq "" reads_text rfl) ?_
  refine read_then (withDefault_eq false reads_flag rfl) ?_
  rfl

/-! ## Trees -/

namespace Action

/-- The name under which an action is written. -/
def key : Action → String
  | .download _ => "download_action"
  | .upload _ => "upload_action"
  | .run _ => "run_action"
  | .timeout _ _ _ => "timeout_action"
  | .progress _ _ _ _ => "emit_progress_action"
  | .attempt _ => "try_action"
  | .serial _ => "serial_action"
  | .parallel _ => "parallel_action"

theorem toJson_document (a : Action) :
    ∃ content, a.document.toJson = .object [(a.key, content)] := by
  cases a <;> exact ⟨_, rfl⟩

theorem inner?_ofJson (j : Json) (rest : Members) :
    inner? (.ofJson (.object (("action", j) :: rest))) = ofJson? (.ofJson j) := by
  rw [Source.ofJson, inner?, Source.ofMembers, innerMember?, if_pos rfl]

theorem innerList?_ofJson (items : List Json) (rest : Members) :
    innerList? (.ofJson (.object (("actions", .array items) :: rest)))
      = ofItems? (Source.ofItems items) := by
  rw [Source.ofJson, innerList?, Source.ofMembers, innerListMember?, if_pos rfl, Source.ofJson,
    listOf?]

mutual

theorem reads : (a : Action) → ofJson? (.ofJson a.document.toJson) = some a
  | .download d => by
      show ofJson? (.object [("download_action", _)]) = _
      simp only [ofJson?]
      rw [Download.reads d]
      rfl
  | .upload u => by
      show ofJson? (.object [("upload_action", _)]) = _
      simp only [ofJson?]
      rw [Upload.reads u]
      rfl
  | .run r => by
      show ofJson? (.object [("run_action", _)]) = _
      simp only [ofJson?]
      rw [Run.reads r]
      rfl
  | .timeout a milliseconds logSource => by
      show ofJson? (.object [("timeout_action", _)]) = _
      simp only [ofJson?]
      refine read_then (of?_ofJson_of_keys rfl (by decide)) ?_
      refine read_then ((inner?_ofJson _ _).trans (reads a)) ?_
      refine read_then (required_eq reads_word64 rfl) ?_
      refine read_then (withDefault_eq "" reads_text rfl) ?_
      rfl
  | .progress a startMessage successMessage failurePrefix => by
      show ofJson? (.object [("emit_progress_action", _)]) = _
      simp only [ofJson?]
      refine read_then (of?_ofJson_of_keys rfl (by decide)) ?_
      refine read_then ((inner?_ofJson _ _).trans (reads a)) ?_
      refine read_then (required_eq reads_text rfl) ?_
      refine read_then (required_eq reads_text rfl) ?_
      refine read_then (required_eq reads_text rfl) ?_
      rfl
  | .attempt a => by
      show ofJson? (.object [("try_action", _)]) = _
      simp only [ofJson?]
      refine read_then (of?_ofJson_of_keys rfl (by decide)) ?_
      refine read_then ((inner?_ofJson _ _).trans (reads a)) ?_
      rfl
  | .serial as => by
      show ofJson? (.object [("serial_action", _)]) = _
      simp only [ofJson?]
      refine read_then (of?_ofJson_of_keys rfl (by decide)) ?_
      refine read_then ((innerList?_ofJson _ _).trans (ofItems?_documents as)) ?_
      rfl
  | .parallel as => by
      show ofJson? (.object [("parallel_action", _)]) = _
      simp only [ofJson?]
      refine read_then (of?_ofJson_of_keys rfl (by decide)) ?_
      refine read_then ((innerList?_ofJson _ _).trans (ofItems?_documents as)) ?_
      rfl

theorem ofItems?_documents : (as : List Action) →
    ofItems? (Source.ofItems (Document.itemsToJson (documents as))) = some as
  | [] => rfl
  | a :: rest => by
      rw [documents, Document.itemsToJson, Source.ofItems, ofItems?]
      refine read_then (reads a) ?_
      refine read_then (ofItems?_documents rest) ?_
      rfl

end

/-- What is read under a key is an action of the kind that is written under it. -/
theorem key_of_ofJson? {name : String} {content : Source} {a : Action}
    (h : ofJson? (.object [(name, content)]) = some a) : a.key = name := by
  unfold ofJson? at h
  split at h
  · obtain ⟨d, -, rfl⟩ := Option.map_eq_some_iff.1 h
    rfl
  · obtain ⟨u, -, rfl⟩ := Option.map_eq_some_iff.1 h
    rfl
  · obtain ⟨r, -, rfl⟩ := Option.map_eq_some_iff.1 h
    rfl
  · obtain ⟨_, -, h⟩ := exists_of_read h
    obtain ⟨inner, -, h⟩ := exists_of_read h
    obtain ⟨milliseconds, -, h⟩ := exists_of_read h
    obtain ⟨logSource, -, h⟩ := exists_of_read h
    obtain rfl := Option.some.inj h
    rfl
  · obtain ⟨_, -, h⟩ := exists_of_read h
    obtain ⟨inner, -, h⟩ := exists_of_read h
    obtain ⟨startMessage, -, h⟩ := exists_of_read h
    obtain ⟨successMessage, -, h⟩ := exists_of_read h
    obtain ⟨failurePrefix, -, h⟩ := exists_of_read h
    obtain rfl := Option.some.inj h
    rfl
  · obtain ⟨_, -, h⟩ := exists_of_read h
    obtain ⟨inner, -, h⟩ := exists_of_read h
    obtain rfl := Option.some.inj h
    rfl
  · obtain ⟨_, -, h⟩ := exists_of_read h
    obtain ⟨actions, -, h⟩ := exists_of_read h
    obtain rfl := Option.some.inj h
    rfl
  · obtain ⟨_, -, h⟩ := exists_of_read h
    obtain ⟨actions, -, h⟩ := exists_of_read h
    obtain rfl := Option.some.inj h
    rfl
  · cases h

end Action

end CellRecipe
