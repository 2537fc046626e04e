import CellRecipe.Action
import CellRecipe.Droplet
import CellRecipe.Lifecycle
import CellRecipe.SecurityGroup
import CellRecipe.Text.LetterCase
import CellRecipe.Workload

/-!
# Run requests

Everything that is known when a task or a process is to be run, and the choice that such a request
leaves open: which droplet runs, and with which command.

Where revisions are enabled and the request comes with one, the revision's droplet runs, with the
command recorded for the type of process or else the one that staging found. In all other cases the
request's own droplet and command count. The command of a task goes before everything else.

## Main definitions

* `RunRequest.selected`: the droplet and the command that run.
* `RunRequest.logSource`: the name under which output is logged.
-/

namespace CellRecipe

/-- What is to be run: a task once, or instances of a process. -/
inductive RunUnit where
  | task (name : String)
  | process (ports : List UInt32) (instances : UInt32)
  deriving DecidableEq, Inhabited

namespace RunUnit

/-- The unit as it is written. -/
def document : RunUnit → Document
  | .task name => .record [("kind", .text "task"), ("name", .text name)]
  | .process ports instances =>
    .record [
      ("kind", .text "process"),
      ("ports", .list (ports.map fun p => .natural p.toNat)),
      ("instances", .natural instances.toNat)]

/-- The unit that a JSON value stands for. -/
def ofJson? (j : Json.Source) : Option RunUnit := do
  let (kind, content) ← Json.splitCase? "kind" j
  match kind with
  | "task" => return .task (← Json.field? "name" Json.text? content)
  | "process" => do
    let r ← Json.Record.of? ["ports", "instances"] content
    let ports ← r.withDefault "ports" [] (Json.list? Json.word32?)
    let instances ← r.withDefault "instances" 1 Json.word32?
    return .process ports instances
  | _ => none

end RunUnit

/-- A request to run a task or a process. -/
structure RunRequest where
  guid : String
  unit : RunUnit
  processType : String
  command : Option String
  memoryMb : UInt64
  diskMb : UInt64
  logBytesPerSecond : Int64
  lifecycle : Lifecycle
  droplet : Droplet
  revision : Option Revision
  environment : List EnvironmentVariable
  isolationSegment : Option String
  workload : Workload
  securityGroups : SecurityGroups
  deriving Inhabited

namespace RunRequest

/-! ## Written form -/

/-- The request as it is written. -/
def document (r : RunRequest) : Document :=
  .record [
    ("guid", .text r.guid),
    ("unit", r.unit.document),
    ("process_type", .text r.processType),
    ("command", .orNull .text r.command),
    ("memory_mb", .natural r.memoryMb.toNat),
    ("disk_mb", .natural r.diskMb.toNat),
    ("log_rate_limit_bytes_per_second", .integer r.logBytesPerSecond.toInt),
    ("lifecycle", r.lifecycle.document),
    ("droplet", r.droplet.document),
    ("revision", .orNull Revision.document r.revision),
    ("environment_variables", .list (r.environment.map EnvironmentVariable.document)),
    ("isolation_segment", .orNull .text r.isolationSegment),
    ("workload", r.workload.document),
    ("security_groups", r.securityGroups.document)]

/-- The fields of a request, in order. -/
def fieldNames : List String := [
  "guid", "unit", "process_type", "command", "memory_mb", "disk_mb",
  "log_rate_limit_bytes_per_second", "lifecycle", "droplet", "revision", "environment_variables",
  "isolation_segment", "workload", "security_groups"]

/-- The request that a JSON value stands for. -/
def ofJson? (j : Json.Source) : Option RunRequest := do
  let r ← Json.Record.of? fieldNames j
  return {
    guid := ← r.required "guid" Json.text?
    unit := ← r.required "unit" RunUnit.ofJson?
    processType := ← r.withDefault "process_type" "web" Json.text?
    command := ← r.optional "command" Json.text?
    memoryMb := ← r.required "memory_mb" Json.word64?
    diskMb := ← r.required "disk_mb" Json.word64?
    logBytesPerSecond := ← r.required "log_rate_limit_bytes_per_second" Json.int64?
    lifecycle := ← r.required "lifecycle" Lifecycle.ofJson?
    droplet := ← r.required "droplet" Droplet.ofJson?
    revision := ← r.optional "revision" Revision.ofJson?
    environment :=
      ← r.withDefault "environment_variables" [] (Json.list? EnvironmentVariable.ofJson?)
    isolationSegment := ← r.optional "isolation_segment" Json.text?
    workload := ← r.required "workload" Workload.ofJson?
    securityGroups := ← r.withDefault "security_groups" .none SecurityGroups.ofJson? }

/-! ## What runs -/

/-- The name under which output is logged. -/
def logSource (r : RunRequest) : String :=
  match r.unit with
  | .task name => "APP/TASK/" ++ name
  | .process _ _ => "APP/PROC/" ++ Text.upper r.processType

/-- The revision that is in force. -/
def revisionInForce (r : RunRequest) : Option Revision :=
  if r.workload.revisionsEnabled then r.revision else none

/-- The command that a task was given. -/
def taskCommand (r : RunRequest) : Option String :=
  match r.unit with
  | .task _ => r.command
  | .process _ _ => none

/-- The droplet and the command that run. -/
def selected (r : RunRequest) : Droplet × String :=
  match r.revisionInForce with
  | some v =>
    (v.droplet,
      (r.taskCommand <|> v.commands.get? r.processType
        <|> v.droplet.detectedCommand r.processType).getD "")
  | none => (r.droplet, (r.command <|> r.droplet.detectedCommand r.processType).getD "")

end RunRequest

end CellRecipe
