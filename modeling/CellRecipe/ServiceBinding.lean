import CellRecipe.Document
import CellRecipe.Json.Record

/-!
# Service bindings

A service instance that is bound to a workload, with the credentials that the service gave out and
the volumes that it offers. Credentials and mount configurations are kept as data, with the order of
their keys.

A binding counts only when its creation has succeeded. One without a recorded operation is older
than such records, and an update or a deletion shows that the creation is long done.

## Main definitions

* `ServiceBinding.createSucceeded`: does the binding count?
* `ServiceBinding.displayName`: the name under which it is shown.
-/

namespace CellRecipe

/-- What was last done to a binding. -/
inductive Operation where
  | create
  | update
  | delete
  deriving DecidableEq, Inhabited

namespace Operation

/-- The name of an operation. -/
def name : Operation → String
  | .create => "create"
  | .update => "update"
  | .delete => "delete"

/-- The operation that a JSON value names. -/
def ofJson? (j : Json.Source) : Option Operation :=
  (Json.caseName? j).bind fun s => [create, update, delete].find? fun o => o.name == s

end Operation

/-- How far an operation has come. -/
inductive Progress where
  | initial
  | inProgress
  | succeeded
  | failed
  deriving DecidableEq, Inhabited

namespace Progress

/-- The name of a state. -/
def name : Progress → String
  | .initial => "initial"
  | .inProgress => "in_progress"
  | .succeeded => "succeeded"
  | .failed => "failed"

/-- The state that a JSON value names. -/
def ofJson? (j : Json.Source) : Option Progress :=
  (Json.caseName? j).bind fun s =>
    [initial, inProgress, succeeded, failed].find? fun p => p.name == s

end Progress

/-- The last operation on a binding. -/
structure LastOperation where
  operation : Operation
  state : Progress
  deriving DecidableEq, Inhabited

namespace LastOperation

/-- The operation as it is written. -/
def document (o : LastOperation) : Document :=
  .record [("type", .text o.operation.name), ("state", .text o.state.name)]

/-- The operation that a JSON value stands for. -/
def ofJson? (j : Json.Source) : Option LastOperation := do
  let r ← Json.Record.of? ["type", "state"] j
  return {
    operation := ← r.required "type" Operation.ofJson?
    state := ← r.required "state" Progress.ofJson? }

end LastOperation

/-- The instance of a service that a binding is for. -/
structure ServiceInstance where
  guid : String
  name : String
  label : String
  plan : Option String
  tags : List String
  deriving DecidableEq, Inhabited

namespace ServiceInstance

/-- The instance as it is written. -/
def document (i : ServiceInstance) : Document :=
  .record [
    ("guid", .text i.guid),
    ("name", .text i.name),
    ("label", .text i.label),
    ("plan", .orNull .text i.plan),
    ("tags", .texts i.tags)]

/-- The instance that a JSON value stands for. -/
def ofJson? (j : Json.Source) : Option ServiceInstance := do
  let r ← Json.Record.of? ["guid", "name", "label", "plan", "tags"] j
  return {
    guid := ← r.required "guid" Json.text?
    name := ← r.required "name" Json.text?
    label := ← r.required "label" Json.text?
    plan := ← r.optional "plan" Json.text?
    tags := ← r.withDefault "tags" [] (Json.list? Json.text?) }

end ServiceInstance

/-- The device behind a volume. -/
structure VolumeDevice where
  volumeId : String
  mountConfig : Option Json.Fields
  deriving Inhabited

namespace VolumeDevice

/-- The device as it is written. -/
def document (d : VolumeDevice) : Document :=
  .record [
    ("volume_id", .text d.volumeId),
    ("mount_config", .orNull (fun f => .ofJson (.object f.members)) d.mountConfig)]

/-- The device that a JSON value stands for. -/
def ofJson? (j : Json.Source) : Option VolumeDevice := do
  let r ← Json.Record.of? ["volume_id", "mount_config"] j
  return {
    volumeId := ← r.required "volume_id" Json.text?
    mountConfig := ← r.optional "mount_config" Json.fields? }

end VolumeDevice

/-- A volume that a binding offers. -/
structure Volume where
  containerDir : String
  mode : String
  deviceType : String
  driver : String
  device : VolumeDevice
  deriving Inhabited

namespace Volume

/-- The volume as it is written. -/
def document (v : Volume) : Document :=
  .record [
    ("container_dir", .text v.containerDir),
    ("mode", .text v.mode),
    ("device_type", .text v.deviceType),
    ("driver", .text v.driver),
    ("device", v.device.document)]

/-- The volume that a JSON value stands for. -/
def ofJson? (j : Json.Source) : Option Volume := do
  let r ← Json.Record.of? ["container_dir", "mode", "device_type", "driver", "device"] j
  return {
    containerDir := ← r.required "container_dir" Json.text?
    mode := ← r.required "mode" Json.text?
    deviceType := ← r.required "device_type" Json.text?
    driver := ← r.required "driver" Json.text?
    device := ← r.required "device" VolumeDevice.ofJson? }

end Volume

/-- A service instance bound to a workload. -/
structure ServiceBinding where
  guid : String
  name : Option String
  serviceInstance : ServiceInstance
  credentials : Json.Fields
  syslogDrainUrl : Option String
  volumes : List Volume
  lastOperation : Option LastOperation
  deriving Inhabited

namespace ServiceBinding

/-- Has the creation of the binding succeeded? -/
def createSucceeded (b : ServiceBinding) : Bool :=
  match b.lastOperation with
  | some ⟨.create, state⟩ => state == .succeeded
  | _ => true

/-- The name of the binding, or else of its instance. -/
def displayName (b : ServiceBinding) : String := b.name.getD b.serviceInstance.name

/-- The binding as it is written. -/
def document (b : ServiceBinding) : Document :=
  .record [
    ("guid", .text b.guid),
    ("name", .orNull .text b.name),
    ("service_instance", b.serviceInstance.document),
    ("credentials", .ofJson (.object b.credentials.members)),
    ("syslog_drain_url", .orNull .text b.syslogDrainUrl),
    ("volume_mounts", .list (b.volumes.map Volume.document)),
    ("last_operation", .orNull LastOperation.document b.lastOperation)]

/-- The binding that a JSON value stands for. -/
def ofJson? (j : Json.Source) : Option ServiceBinding := do
  let r ← Json.Record.of?
    ["guid", "name", "service_instance", "credentials", "syslog_drain_url", "volume_mounts",
      "last_operation"] j
  return {
    guid := ← r.required "guid" Json.text?
    name := ← r.optional "name" Json.text?
    serviceInstance := ← r.required "service_instance" ServiceInstance.ofJson?
    credentials := ← r.withDefault "credentials" .empty Json.fields?
    syslogDrainUrl := ← r.optional "syslog_drain_url" Json.text?
    volumes := ← r.withDefault "volume_mounts" [] (Json.list? Volume.ofJson?)
    lastOperation := ← r.optional "last_operation" LastOperation.ofJson? }

end ServiceBinding

end CellRecipe
