import CellRecipe.Table
import CellRecipe.Workload

/-!
# Identity and placement

By which names a recipe's container goes: in certificates, in metrics and on the network, where it
may be placed and what share of a processor it gets. Staging, tasks and processes differ only in the
kind that the network sees.

## Main definitions

* `Identity.network`, `Identity.metricTags`, `Identity.organizationalUnit`: the names.
* `Identity.placementTags`, `Identity.cpuWeight`: place and share.
-/

namespace CellRecipe.Identity

/-- What a container is for. -/
inductive ContainerKind where
  | staging
  | task
  | app
  deriving DecidableEq, Inhabited

/-- The name of a kind. -/
def ContainerKind.name : ContainerKind → String
  | .staging => "staging"
  | .task => "task"
  | .app => "app"

/-- The kind of a name. -/
def ContainerKind.ofName? (s : String) : Option ContainerKind :=
  [.staging, .task, .app].find? fun k => k.name == s

/-- The units of a workload's certificate. -/
def organizationalUnit (w : Workload) : List String := [
  "organization:" ++ w.organization.guid,
  "space:" ++ w.space.guid,
  "app:" ++ w.guid]

/-- The tags of a workload's metrics. -/
def metricTags (w : Workload) : Table String :=
  .ofList [
    ("source_id", w.guid),
    ("organization_id", w.organization.guid),
    ("space_id", w.space.guid),
    ("app_id", w.guid),
    ("organization_name", w.organization.name),
    ("space_name", w.space.name),
    ("app_name", w.name)]

/-- Ports in one text, with commas between them. -/
def portsText (ports : List UInt32) : String :=
  String.intercalate "," (ports.map fun p => toString p.toNat)

/-- What the network knows of a workload's container. -/
def network (w : Workload) (ports : List UInt32) (kind : ContainerKind) : Table String :=
  .ofList [
    ("policy_group_id", w.guid),
    ("app_id", w.guid),
    ("space_id", w.space.guid),
    ("org_id", w.organization.guid),
    ("ports", portsText ports),
    ("container_workload", kind.name)]

/-- The tag of an isolation segment; a segment without a name is none. -/
def placementTags : Option String → List String
  | some segment => if segment.isEmpty then [] else [segment]
  | none => []

/-- The share of a processor that staging gets. -/
def stagingCpuWeight : UInt32 := 50

/-- The memory that gets the least share, in megabytes. -/
def minShareMb : Nat := 128

/-- The memory that gets the full share, in megabytes. -/
def maxShareMb : Nat := 8192

/-- The share of a processor, in hundredths, that goes with an amount of memory. -/
def cpuWeight (memoryMb : UInt64) : UInt32 :=
  UInt32.ofNat (100 * min maxShareMb (max minShareMb memoryMb.toNat) / maxShareMb)

end CellRecipe.Identity
