import CellRecipe.CommandLine.FileStore
import CellRecipe.Settings.Environment
import CellRecipe.Settings.Validation
import CellRecipe.Settings.Yaml

/-!
# Settings from a file

The settings under which the program works: those of a file, or the defaults if there is none, with
the overrides of the environment on top. They are used only if they are valid.

## Main definitions

* `Settings.ofFile`: the settings of a file.
* `Settings.load`: the settings of a file and an environment.
-/

namespace CellRecipe

/-- Why a file gives no settings. -/
inductive SettingsFault where
  | unreadable (path : String) (fault : FileFault)
  | malformed
  | invalid (fault : Settings.Fault)
  deriving DecidableEq

/-- The words for a fault. -/
def SettingsFault.message : SettingsFault → String
  | .unreadable path fault => "Failed to read config file " ++ path ++ ": " ++ fault.message
  | .malformed => "Failed to parse config"
  | .invalid fault => "Configuration validation failed: " ++ fault.message

namespace Settings

/-- The settings of a file. -/
def ofFile (store : FileStore) (path : String) : Except SettingsFault Settings :=
  match store.read path with
  | .error fault => .error (.unreadable path fault)
  | .ok content =>
    match ofYaml? content with
    | some s => .ok s
    | none => .error .malformed

/-- The settings, if they are valid. -/
def validated (s : Settings) : Except SettingsFault Settings :=
  match s.fault? with
  | some fault => .error (.invalid fault)
  | none => .ok s

/-- The settings of a file and an environment. -/
def load (environment : Environment) (store : FileStore) (path : Option String) :
    Except SettingsFault Settings := do
  let s ←
    match path with
    | some path => ofFile store path
    | none => pure standard
  (s.override environment).validated

end Settings

end CellRecipe
