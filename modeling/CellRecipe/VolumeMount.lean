import CellRecipe.Json.Printer
import CellRecipe.ServiceBinding

/-!
# Volume mounts

The volumes that a container mounts: one for every volume of every binding, in the order of the
bindings. The configuration of a mount is the JSON text of an object, or nothing at all where there
is no configuration or an empty one.

## Main definitions

* `VolumeMount.ofBindings`: the mounts of a list of bindings.
-/

namespace CellRecipe

/-- The device of a mount. -/
structure SharedDevice where
  volumeId : String
  mountConfig : String
  deriving DecidableEq, Inhabited

namespace SharedDevice

/-- The device as it is written. -/
def document (d : SharedDevice) : Document :=
  .record [("volume_id", .text d.volumeId), ("mount_config", .text d.mountConfig)]

/-- The device that a JSON value stands for. -/
def ofJson? (j : Json.Source) : Option SharedDevice := do
  let r ← Json.Record.of? ["volume_id", "mount_config"] j
  return {
    volumeId := ← r.required "volume_id" Json.text?
    mountConfig := ← r.required "mount_config" Json.text? }

end SharedDevice

/-- A volume mounted into a container. -/
structure VolumeMount where
  driver : String
  containerDir : String
  mode : String
  shared : SharedDevice
  deriving DecidableEq, Inhabited

namespace VolumeMount

/-- The mount as it is written. -/
def document (m : VolumeMount) : Document :=
  .record [
    ("driver", .text m.driver),
    ("container_dir", .text m.containerDir),
    ("mode", .text m.mode),
    ("shared", m.shared.document)]

/-- The mount that a JSON value stands for. -/
def ofJson? (j : Json.Source) : Option VolumeMount := do
  let r ← Json.Record.of? ["driver", "container_dir", "mode", "shared"] j
  return {
    driver := ← r.required "driver" Json.text?
    containerDir := ← r.required "container_dir" Json.text?
    mode := ← r.required "mode" Json.text?
    shared := ← r.required "shared" SharedDevice.ofJson? }

/-- The text of a configuration. -/
def configText : Option Json.Fields → String
  | some config => if config.isEmpty then "" else (Json.object config.members).compact
  | none => ""

/-- The mount of a volume. -/
def ofVolume (v : Volume) : VolumeMount where
  driver := v.driver
  containerDir := v.containerDir
  mode := v.mode
  shared := ⟨v.device.volumeId, configText v.device.mountConfig⟩

/-- The mounts of all bindings, in order. -/
def ofBindings (bindings : List ServiceBinding) : List VolumeMount :=
  bindings.flatMap fun b => b.volumes.map ofVolume

end VolumeMount

end CellRecipe
