import CellRecipe.Settings
import CellRecipe.Text.Character

/-!
# Valid settings

The settings under which recipes may be built: staging takes from one second to a day, results are
reported to a named host and a real port, and the limit of processes is not negative.

## Main definitions

* `Settings.fault?`: the first setting that is out of bounds.
-/

namespace CellRecipe.Settings

/-- What is wrong with settings. -/
inductive Fault where
  | noTimeout
  | timeoutTooLong
  | blankHostname
  | noPort
  | negativePidLimit (limit : Int32)
  deriving DecidableEq

/-- The words for a fault. -/
def Fault.message : Fault → String
  | .noTimeout => "Staging timeout must be at least 1 second"
  | .timeoutTooLong => "Staging timeout cannot exceed 24 hours"
  | .blankHostname => "Internal service hostname must not be empty"
  | .noPort => "TLS port must be greater than 0"
  | .negativePidLimit limit =>
    "Invalid pid limit: " ++ toString limit.toInt ++ ". Use 0 for unlimited"

/-- The longest time that staging may take, in seconds. -/
def maxTimeoutSeconds : UInt64 := 86400

/-- The first fault of the settings. -/
def fault? (s : Settings) : Option Fault :=
  if s.timeoutSeconds = 0 then some .noTimeout
  else if s.timeoutSeconds > maxTimeoutSeconds then some .timeoutTooLong
  else if s.hostname.toList.all Text.isBlank then some .blankHostname
  else if s.tlsPort = 0 then some .noPort
  else if s.pidLimit < 0 then some (.negativePidLimit s.pidLimit)
  else none

end CellRecipe.Settings
