import CellRecipe.ServiceBinding

/-!
# What a workload sees of its bindings

The attributes that a binding presents, always the same eleven and always in the same order, and the
object of all bindings grouped by the label of their service.

## Main definitions

* `ServiceBinding.presented`: the attributes of one binding.
* `ServiceBinding.byLabel`: finished bindings under their labels, labels by first occurrence.
-/

namespace CellRecipe.ServiceBinding

/-- A text that may be missing. -/
def textOrNull : Option String → Json
  | some s => .string s
  | none => .null

/-- What a workload sees of a volume. -/
def presentedVolume (v : Volume) : Json :=
  .object [
    ("container_dir", .string v.containerDir),
    ("mode", .string v.mode),
    ("device_type", .string v.deviceType)]

/-- The attributes of a binding. -/
def presented (b : ServiceBinding) : Json.Members := [
  ("label", .string b.serviceInstance.label),
  ("plan", textOrNull b.serviceInstance.plan),
  ("name", .string b.displayName),
  ("tags", .array (b.serviceInstance.tags.map .string)),
  ("instance_guid", .string b.serviceInstance.guid),
  ("instance_name", .string b.serviceInstance.name),
  ("binding_guid", .string b.guid),
  ("binding_name", textOrNull b.name),
  ("credentials", .object b.credentials.members),
  ("syslog_drain_url", textOrNull b.syslogDrainUrl),
  ("volume_mounts", .array (b.volumes.map presentedVolume))]

/-- Values under their labels. -/
abbrev Groups := List (String × List Json)

/-- The groups with one more value at the end of its label's group. -/
def fileUnder (label : String) (value : Json) : Groups → Groups
  | [] => [(label, [value])]
  | (l, values) :: rest =>
    if l = label then (l, values ++ [value]) :: rest else (l, values) :: fileUnder label value rest

/-- The finished bindings. -/
def finished (bindings : List ServiceBinding) : List ServiceBinding :=
  bindings.filter createSucceeded

/-- The finished bindings as they are presented, under the labels of their services. -/
def byLabel (bindings : List ServiceBinding) : Groups :=
  (finished bindings).foldl
    (fun groups b => fileUnder b.serviceInstance.label (.object b.presented) groups) []

/-- The groups as one object. -/
def services (bindings : List ServiceBinding) : Json :=
  .object ((byLabel bindings).map fun (label, values) => (label, .array values))

end CellRecipe.ServiceBinding
