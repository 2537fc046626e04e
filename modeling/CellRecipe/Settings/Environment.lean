import CellRecipe.Settings
import CellRecipe.Text.Numeral

/-!
# Settings from the environment

Eight settings can be overridden by a variable each. A variable that is not set, or whose value is
not of the setting's kind and range, leaves its setting alone.

## Main definitions

* `Settings.override`: the settings with the overrides of an environment.
-/

namespace CellRecipe

/-- The values of the variables that are set. -/
abbrev Environment := String → Option String

namespace Settings

/-- The variables that override settings. -/
def variableNames : List String := [
  "RECIPE_INTERNAL_SERVICE_HOSTNAME", "RECIPE_TLS_PORT", "RECIPE_STAGING_TIMEOUT",
  "RECIPE_PID_LIMIT", "RECIPE_PRIVILEGED_STAGING", "RECIPE_PRIVILEGED_RUNNING",
  "RECIPE_FILE_SERVER_URL", "RECIPE_DECLARATIVE_ASSETS"]

/-- A natural number up to `high`. -/
def naturalUpTo? (high : Nat) (s : String) : Option Nat :=
  (Text.natural? s.toList).filter fun n => n ≤ high

/-- A natural number of 16 bits. -/
def word16? (s : String) : Option UInt16 := (naturalUpTo? (UInt16.size - 1) s).map UInt16.ofNat

/-- A natural number of 64 bits. -/
def word64? (s : String) : Option UInt64 := (naturalUpTo? (UInt64.size - 1) s).map UInt64.ofNat

/-- A signed integer of 32 bits. -/
def int32? (s : String) : Option Int32 :=
  ((Text.integer? s.toList).filter fun n =>
    Int32.minValue.toInt ≤ n && n ≤ Int32.maxValue.toInt).map Int32.ofInt

/-- A truth value. -/
def flag? (s : String) : Option Bool :=
  if s = "true" then some true else if s = "false" then some false else none

/-- The value of a variable where it is set and readable, else the old value. -/
def overridden (environment : Environment) (name : String) (value : String → Option α) (old : α) :
    α :=
  ((environment name).bind value).getD old

/-- The settings with the overrides of an environment. -/
def override (environment : Environment) (s : Settings) : Settings :=
  { s with
    hostname := overridden environment "RECIPE_INTERNAL_SERVICE_HOSTNAME" some s.hostname
    tlsPort := overridden environment "RECIPE_TLS_PORT" word16? s.tlsPort
    timeoutSeconds := overridden environment "RECIPE_STAGING_TIMEOUT" word64? s.timeoutSeconds
    pidLimit := overridden environment "RECIPE_PID_LIMIT" int32? s.pidLimit
    privilegedStaging :=
      overridden environment "RECIPE_PRIVILEGED_STAGING" flag? s.privilegedStaging
    privilegedRunning :=
      overridden environment "RECIPE_PRIVILEGED_RUNNING" flag? s.privilegedRunning
    fileServerUrl := overridden environment "RECIPE_FILE_SERVER_URL" some s.fileServerUrl
    declarativeAssets :=
      overridden environment "RECIPE_DECLARATIVE_ASSETS" flag? s.declarativeAssets }

/-- Only the listed variables matter, so no others need to be looked up. -/
theorem override_congr {e e' : Environment} (h : ∀ name ∈ variableNames, e name = e' name)
    (s : Settings) : s.override e = s.override e' := by
  simp only [variableNames, List.forall_mem_cons] at h
  simp [override, overridden, h]

end Settings

end CellRecipe
