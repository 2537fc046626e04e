import CellRecipe.Asset
import CellRecipe.Document
import CellRecipe.Json.Record
import CellRecipe.Table

/-!
# Droplets and revisions

A droplet is what staging leaves behind: an archive or a recorded image, together with the commands
that were detected for each type of process. A revision is a droplet of the past, with the commands
that were set for it.
-/

namespace CellRecipe

/-- What staging has made. -/
structure Droplet where
  guid : String
  sha256 : Option String
  processTypes : Table String
  downloadUrl : Option String
  executionMetadata : String
  receiptImage : Option String
  receiptCredentials : Option ImageCredentials
  deriving DecidableEq, Inhabited

namespace Droplet

/-- The command that staging found for a type of process. -/
def detectedCommand (d : Droplet) (processType : String) : Option String :=
  d.processTypes.get? processType

/-- The droplet as it is written. -/
def document (d : Droplet) : Document :=
  .record [
    ("guid", .text d.guid),
    ("sha256_checksum", .orNull .text d.sha256),
    ("process_types", d.processTypes.document .text),
    ("download_url", .orNull .text d.downloadUrl),
    ("execution_metadata", .text d.executionMetadata),
    ("docker_receipt_image", .orNull .text d.receiptImage),
    ("docker_receipt_credentials", .orNull ImageCredentials.document d.receiptCredentials)]

/-- The droplet that a JSON value stands for. -/
def ofJson? (j : Json.Source) : Option Droplet := do
  let r ← Json.Record.of?
    ["guid", "sha256_checksum", "process_types", "download_url", "execution_metadata",
      "docker_receipt_image", "docker_receipt_credentials"] j
  return {
    guid := ← r.required "guid" Json.text?
    sha256 := ← r.optional "sha256_checksum" Json.text?
    processTypes := ← r.withDefault "process_types" .empty (Table.ofJson? Json.text?)
    downloadUrl := ← r.optional "download_url" Json.text?
    executionMetadata := ← r.withDefault "execution_metadata" "" Json.text?
    receiptImage := ← r.optional "docker_receipt_image" Json.text?
    receiptCredentials := ← r.optional "docker_receipt_credentials" ImageCredentials.ofJson? }

end Droplet

/-- A droplet of the past with its recorded commands. -/
structure Revision where
  guid : String
  droplet : Droplet
  commands : Table String
  deriving DecidableEq, Inhabited

namespace Revision

/-- The revision as it is written. -/
def document (r : Revision) : Document :=
  .record [
    ("guid", .text r.guid),
    ("droplet", r.droplet.document),
    ("commands", r.commands.document .text)]

/-- The revision that a JSON value stands for. -/
def ofJson? (j : Json.Source) : Option Revision := do
  let r ← Json.Record.of? ["guid", "droplet", "commands"] j
  return {
    guid := ← r.required "guid" Json.text?
    droplet := ← r.required "droplet" Droplet.ofJson?
    commands := ← r.withDefault "commands" .empty (Table.ofJson? Json.text?) }

end Revision

end CellRecipe
