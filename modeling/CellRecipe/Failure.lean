import CellRecipe.Document

/-!
# Reasons for a failed run

The scheduler reports a failure as free text. `classify` finds the reason behind the text by three
tables, in this order: exit codes that the text ends in, phrases that it starts with, and whole
messages. A text that no table knows is a staging failure like any other.

The text itself is passed on when a phrase or a whole message was recognised; in the other cases the
reason carries a fixed message, because the text may quote the output of a build.

## Main definitions

* `Failure.Kind`: the reasons, with the names by which they are reported.
* `Failure.classify`: the reason behind a text.
-/

namespace CellRecipe.Failure

/-- Why staging or running failed. -/
inductive Kind where
  | staging
  | insufficientResources
  | noCompatibleCell
  | cellCommunication
  | buildpackDetect
  | buildpackCompile
  | buildpackRelease
  | cnbBuildGeneric
  | cnbDownload
  | cnbDetect
  | cnbBuild
  | cnbExport
  | cnbLaunch
  | cnbRestore
  deriving DecidableEq, Inhabited

/-- The name by which a reason is reported. -/
def Kind.name : Kind → String
  | .staging => "StagingError"
  | .insufficientResources => "InsufficientResources"
  | .noCompatibleCell => "NoCompatibleCell"
  | .cellCommunication => "CellCommunicationError"
  | .buildpackDetect => "NoAppDetectedError"
  | .buildpackCompile => "BuildpackCompileFailed"
  | .buildpackRelease => "BuildpackReleaseFailed"
  | .cnbBuildGeneric => "CNBGenericBuildFailed"
  | .cnbDownload => "CNBDownloadBuildpackFailed"
  | .cnbDetect => "CNBDetectFailed"
  | .cnbBuild => "CNBBuildFailed"
  | .cnbExport => "CNBExportFailed"
  | .cnbLaunch => "CNBLaunchFailed"
  | .cnbRestore => "CNBRestoreFailed"

/-- A reason and the message that goes with it. -/
structure Reason where
  kind : Kind
  message : String
  deriving DecidableEq, Inhabited

/-- The message of a reason whose text is not passed on. -/
def stagingFailed : String := "staging failed"

/-- A row of a table: a text and the reason that it gives. -/
abbrev Row := String × Kind

/-- Exit codes of the builders, at the end of the text. -/
def exitCodes : List Row := [
  ("222", .buildpackDetect),
  ("223", .buildpackCompile),
  ("224", .buildpackRelease),
  ("231", .cnbBuildGeneric),
  ("232", .cnbDownload),
  ("233", .cnbDetect),
  ("234", .cnbBuild),
  ("235", .cnbExport),
  ("236", .cnbLaunch),
  ("237", .cnbRestore)]

/-- Phrases at the start of the text. -/
def phrases : List Row := [
  ("insufficient resources", .insufficientResources),
  ("found no compatible cell", .noCompatibleCell)]

/-- Whole messages. -/
def messages : List Row := [
  ("unable to communicate to compatible cells", .cellCommunication),
  ("missing docker image download url", .staging),
  ("missing docker registry", .staging),
  ("missing docker credentials", .staging),
  ("invalid docker registry address", .staging)]

/-- Does the text end in `ending`? -/
def endsIn (text ending : String) : Bool := ending.toList.isSuffixOf text.toList

/-- Does the text start with `start`? -/
def startsWith (text start : String) : Bool := start.toList.isPrefixOf text.toList

/-- The reason behind a text, by the given tables. -/
def classifyBy (exitCodes phrases messages : List Row) (text : String) : Reason :=
  match exitCodes.find? (fun row => endsIn text row.1) with
  | some row => ⟨row.2, stagingFailed⟩
  | none =>
    match (phrases.find? fun row => startsWith text row.1)
        <|> (messages.find? fun row => text == row.1) with
    | some row => ⟨row.2, text⟩
    | none => ⟨.staging, stagingFailed⟩

/-- The reason behind a text. -/
def classify (text : String) : Reason := classifyBy exitCodes phrases messages text

/-- A reason as it is written. -/
def Reason.document (r : Reason) : Document :=
  .record [("id", .text r.kind.name), ("message", .text r.message)]

end CellRecipe.Failure
