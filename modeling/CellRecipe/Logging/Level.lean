import CellRecipe.Text.LetterCase

/-!
# Levels of logging

How important an event is. A level is named in any letter case; a name that is none stands for the
level of information, with a warning.

## Main definitions

* `Logging.Level.parse`: the level of a name, and a warning if it is none.
* `Logging.Level.rank`: the order of the levels.
-/

namespace CellRecipe.Logging

/-- How much is logged. -/
inductive Level where
  | trace
  | debug
  | info
  | warn
  | error
  deriving DecidableEq, Inhabited

namespace Level

/-- The name of a level. -/
def name : Level → String
  | .trace => "TRACE"
  | .debug => "DEBUG"
  | .info => "INFO"
  | .warn => "WARN"
  | .error => "ERROR"

/-- The level of a name. -/
def ofName? (s : String) : Option Level :=
  match Text.lower s with
  | "trace" => some .trace
  | "debug" => some .debug
  | "info" => some .info
  | "warn" => some .warn
  | "error" => some .error
  | _ => none

/-- The warning about a name of no level. -/
def warning (s : String) : String :=
  "Invalid log level '" ++ s
    ++ "', defaulting to INFO. Valid levels: trace, debug, info, warn, error"

/-- The level of a name, and a warning if it is none. -/
def parse (s : String) : Level × List String :=
  match ofName? s with
  | some level => (level, [])
  | none => (.info, [warning s])

/-- The place of a level, from the least important one. -/
def rank : Level → Nat
  | .trace => 0
  | .debug => 1
  | .info => 2
  | .warn => 3
  | .error => 4

end Level

end CellRecipe.Logging
