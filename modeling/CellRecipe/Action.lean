import CellRecipe.Document
import CellRecipe.Json.Record

/-!
# Actions

What a container does, as a tree. The leaves fetch a file, hand one in or run a program; around them
stand a time limit, progress messages, or a mark that a failure does not matter, and several actions
run one after the other or side by side.

An action is written as an object with one member, named for the kind of action.

## Main definitions

* `Action.timeLimit?`: the time limit of a tree.
* `Action.findRun`: the first program of a tree, depth first.
* `Action.downloads`: the files that a tree fetches, in order.
* `Action.document`, `Action.ofJson?`: the written form and back.
-/

namespace CellRecipe

/-- A variable of a program's environment. -/
structure EnvironmentVariable where
  name : String
  value : String
  deriving DecidableEq, Inhabited

namespace EnvironmentVariable

/-- The variable as it is written. -/
def document (v : EnvironmentVariable) : Document :=
  .record [("name", .text v.name), ("value", .text v.value)]

/-- The variable that a JSON value stands for. -/
def ofJson? (j : Json.Source) : Option EnvironmentVariable := do
  let r ← Json.Record.of? ["name", "value"] j
  return {
    name := ← r.required "name" Json.text?
    value := ← r.required "value" Json.text? }

end EnvironmentVariable

/-- Fetching a file. The checksum's algorithm and value are there together or not at all. -/
structure Download where
  artifact : String
  source : String
  target : String
  cacheKey : String
  user : String
  checksumAlgorithm : Option String
  checksumValue : Option String
  deriving DecidableEq, Inhabited

namespace Download

/-- The entries of a written download. -/
def entries (d : Download) : List Document.Entry := [
  .always "artifact" (.text d.artifact),
  .always "from" (.text d.source),
  .always "to" (.text d.target),
  .always "cache_key" (.text d.cacheKey),
  .always "user" (.text d.user),
  .ifSome "checksum_algorithm" .text d.checksumAlgorithm,
  .ifSome "checksum_value" .text d.checksumValue]

/-- The download as it is written. -/
def document (d : Download) : Document := .ofEntries d.entries

/-- The fields of a download, in order. -/
def fieldNames : List String :=
  ["artifact", "from", "to", "cache_key", "user", "checksum_algorithm", "checksum_value"]

/-- The download that a JSON value stands for. -/
def ofJson? (j : Json.Source) : Option Download := do
  let r ← Json.Record.of? fieldNames j
  return {
    artifact := ← r.required "artifact" Json.text?
    source := ← r.required "from" Json.text?
    target := ← r.required "to" Json.text?
    cacheKey := ← r.required "cache_key" Json.text?
    user := ← r.required "user" Json.text?
    checksumAlgorithm := ← r.optional "checksum_algorithm" Json.text?
    checksumValue := ← r.optional "checksum_value" Json.text? }

end Download

/-- Handing in a file. -/
structure Upload where
  artifact : String
  source : String
  target : String
  user : String
  deriving DecidableEq, Inhabited

namespace Upload

/-- The upload as it is written. -/
def document (u : Upload) : Document :=
  .record [
    ("artifact", .text u.artifact),
    ("from", .text u.source),
    ("to", .text u.target),
    ("user", .text u.user)]

/-- The upload that a JSON value stands for. -/
def ofJson? (j : Json.Source) : Option Upload := do
  let r ← Json.Record.of? ["artifact", "from", "to", "user"] j
  return {
    artifact := ← r.required "artifact" Json.text?
    source := ← r.required "from" Json.text?
    target := ← r.required "to" Json.text?
    user := ← r.required "user" Json.text? }

end Upload

/-- Limits on what a program may use. -/
structure ResourceLimits where
  openFiles : Option UInt64
  deriving DecidableEq, Inhabited

namespace ResourceLimits

/-- The entries of written limits. -/
def entries (l : ResourceLimits) : List Document.Entry :=
  [.ifSome "nofile" (fun n => .natural n.toNat) l.openFiles]

/-- The limits as they are written. -/
def document (l : ResourceLimits) : Document := .ofEntries l.entries

/-- The fields of limits. -/
def fieldNames : List String := ["nofile"]

/-- The limits that a JSON value stands for. -/
def ofJson? (j : Json.Source) : Option ResourceLimits := do
  let r ← Json.Record.of? fieldNames j
  return { openFiles := ← r.optional "nofile" Json.word64? }

end ResourceLimits

/-- Running a program. -/
structure Run where
  path : String
  args : List String
  dir : String := ""
  env : List EnvironmentVariable
  limits : ResourceLimits := ⟨none⟩
  user : String
  logSource : String
  suppressLogOutput : Bool := false
  deriving DecidableEq, Inhabited

namespace Run

/-- The run as it is written. -/
def document (r : Run) : Document :=
  .record [
    ("path", .text r.path),
    ("args", .texts r.args),
    ("dir", .text r.dir),
    ("env", .list (r.env.map EnvironmentVariable.document)),
    ("resource_limits", r.limits.document),
    ("user", .text r.user),
    ("log_source", .text r.logSource),
    ("suppress_log_output", .bool r.suppressLogOutput)]

/-- The run that a JSON value stands for. -/
def ofJson? (j : Json.Source) : Option Run := do
  let r ← Json.Record.of?
    ["path", "args", "dir", "env", "resource_limits", "user", "log_source",
      "suppress_log_output"] j
  return {
    path := ← r.required "path" Json.text?
    args := ← r.required "args" (Json.list? Json.text?)
    dir := ← r.withDefault "dir" "" Json.text?
    env := ← r.required "env" (Json.list? EnvironmentVariable.ofJson?)
    limits := ← r.required "resource_limits" ResourceLimits.ofJson?
    user := ← r.required "user" Json.text?
    logSource := ← r.withDefault "log_source" "" Json.text?
    suppressLogOutput := ← r.withDefault "suppress_log_output" false Json.flag? }

end Run

/-- A tree of actions. -/
inductive Action where
  | download (download : Download)
  | upload (upload : Upload)
  | run (run : Run)
  | timeout (action : Action) (milliseconds : UInt64) (logSource : String)
  | progress (action : Action) (startMessage successMessage failurePrefix : String)
  | attempt (action : Action)
  | serial (actions : List Action)
  | parallel (actions : List Action)
  deriving Inhabited

namespace Action

/-! ## What a tree holds -/

/-- The time limit at the root of a tree, in milliseconds. -/
def timeLimit? : Action → Option UInt64
  | .timeout _ milliseconds _ => some milliseconds
  | _ => none

theorem timeLimit?_eq_some_iff {a : Action} {milliseconds : UInt64} :
    a.timeLimit? = some milliseconds
      ↔ ∃ inner logSource, a = .timeout inner milliseconds logSource := by
  cases a <;> simp [timeLimit?]

mutual

/-- The first program of a tree, depth first. -/
def findRun : Action → Option Run
  | .run r => some r
  | .timeout a _ _ => a.findRun
  | .progress a _ _ _ => a.findRun
  | .attempt a => a.findRun
  | .serial as => findRunIn as
  | .parallel as => findRunIn as
  | .download _ => none
  | .upload _ => none

/-- The first program of several trees. -/
def findRunIn : List Action → Option Run
  | [] => none
  | a :: rest => a.findRun <|> findRunIn rest

end

mutual

/-- The files that a tree fetches, after those in `found`, last one first. -/
def collectDownloads (found : List Download) : Action → List Download
  | .download d => d :: found
  | .timeout a _ _ => a.collectDownloads found
  | .progress a _ _ _ => a.collectDownloads found
  | .attempt a => a.collectDownloads found
  | .serial as => collectDownloadsIn found as
  | .parallel as => collectDownloadsIn found as
  | .run _ => found
  | .upload _ => found

/-- The files that several trees fetch, after those in `found`, last one first. -/
def collectDownloadsIn (found : List Download) : List Action → List Download
  | [] => found
  | a :: rest => collectDownloadsIn (a.collectDownloads found) rest

end

/-- The files that a tree fetches, in order, those of an attempt included. -/
def downloads (a : Action) : List Download := (a.collectDownloads []).reverse

/-! ## Writing -/

mutual

/-- The action as it is written. -/
def document : Action → Document
  | .download d => .variant "download_action" d.document
  | .upload u => .variant "upload_action" u.document
  | .run r => .variant "run_action" r.document
  | .timeout a milliseconds logSource =>
    .variant "timeout_action" (.record [
      ("action", a.document),
      ("timeout_ms", .natural milliseconds.toNat),
      ("log_source", .text logSource)])
  | .progress a startMessage successMessage failurePrefix =>
    .variant "emit_progress_action" (.record [
      ("action", a.document),
      ("start_message", .text startMessage),
      ("success_message", .text successMessage),
      ("failure_message_prefix", .text failurePrefix)])
  | .attempt a => .variant "try_action" (.record [("action", a.document)])
  | .serial as => .variant "serial_action" (.record [("actions", .list (documents as))])
  | .parallel as => .variant "parallel_action" (.record [("actions", .list (documents as))])

/-- The actions as they are written. -/
def documents : List Action → List Document
  | [] => []
  | a :: rest => a.document :: documents rest

end

/-! ## Reading -/

mutual

/-- The action that a JSON value stands for. -/
def ofJson? : Json.Source → Option Action
  | .object [(name, content)] =>
    match name with
    | "download_action" => (Download.ofJson? content).map .download
    | "upload_action" => (Upload.ofJson? content).map .upload
    | "run_action" => (Run.ofJson? content).map .run
    | "timeout_action" => do
      let r ← Json.Record.of? ["action", "timeout_ms", "log_source"] content
      let a ← inner? content
      let milliseconds ← r.required "timeout_ms" Json.word64?
      let logSource ← r.withDefault "log_source" "" Json.text?
      return .timeout a milliseconds logSource
    | "emit_progress_action" => do
      let r ← Json.Record.of?
        ["action", "start_message", "success_message", "failure_message_prefix"] content
      let a ← inner? content
      let startMessage ← r.required "start_message" Json.text?
      let successMessage ← r.required "success_message" Json.text?
      let failurePrefix ← r.required "failure_message_prefix" Json.text?
      return .progress a startMessage successMessage failurePrefix
    | "try_action" => do
      let _ ← Json.Record.of? ["action"] content
      return .attempt (← inner? content)
    | "serial_action" => do
      let _ ← Json.Record.of? ["actions"] content
      return .serial (← innerList? content)
    | "parallel_action" => do
      let _ ← Json.Record.of? ["actions"] content
      return .parallel (← innerList? content)
    | _ => none
  | _ => none

/-- The action in the first field of a record, which is named `action`. -/
def inner? : Json.Source → Option Action
  | .object ms => innerMember? ms
  | .array (x :: _) => ofJson? x
  | _ => none

/-- The action in the member `action`. -/
def innerMember? : Json.Source.Members → Option Action
  | [] => none
  | (k, v) :: rest => if k = "action" then ofJson? v else innerMember? rest

/-- The actions in the first field of a record, which is named `actions`. -/
def innerList? : Json.Source → Option (List Action)
  | .object ms => innerListMember? ms
  | .array (x :: _) => listOf? x
  | _ => none

/-- The actions in the member `actions`. -/
def innerListMember? : Json.Source.Members → Option (List Action)
  | [] => none
  | (k, v) :: rest => if k = "actions" then listOf? v else innerListMember? rest

/-- The actions that an array stands for. -/
def listOf? : Json.Source → Option (List Action)
  | .array items => ofItems? items
  | _ => none

/-- The actions that the items stand for. -/
def ofItems? : List Json.Source → Option (List Action)
  | [] => some []
  | x :: rest => do return (← ofJson? x) :: (← ofItems? rest)

end

end Action

end CellRecipe
