import CellRecipe.Document
import CellRecipe.Json.Printer
import CellRecipe.Logging.Directive
import CellRecipe.Settings.Environment

/-!
# Logging

How much is logged, and in which form. An event is logged if its level reaches the one that was
asked for. Its text goes out as it is, so a value with a line break takes several lines; only the
JSON form keeps every event on a line of its own.

## Main definitions

* `Logging.Options.ofEnvironment`: the options of an environment.
* `Logging.Options.lines`: what is logged of a list of events.
-/

namespace CellRecipe.Logging

/-- Something that happened, with the values that tell where. -/
structure Event where
  level : Level
  message : String
  fields : List (String × String) := []
  deriving DecidableEq

namespace Event

/-- A text for a terminal, shown with a display attribute if attributes are wanted. -/
def styled (wanted : Bool) (code text : String) : String :=
  if wanted then "\x1b[" ++ code ++ "m" ++ text ++ "\x1b[0m" else text

/-- A field in the text of an event: its name in italics, a faint sign and its value. -/
def fieldText (wanted : Bool) (field : String × String) : String :=
  " " ++ styled wanted "3" field.1 ++ styled wanted "2" "=" ++ field.2

/-- The text of an event. -/
def text (wanted : Bool) (e : Event) : String :=
  e.level.name ++ " " ++ e.message ++ String.join (e.fields.map (fieldText wanted))

/-- The event as it is written in the JSON form. -/
def document (e : Event) : Document :=
  .record [
    ("level", .text e.level.name),
    ("fields",
      .record (("message", .text e.message) :: e.fields.map fun f => (f.1, .text f.2)))]

end Event

/-- The options of logging. -/
structure Options where
  level : Level
  json : Bool
  styled : Bool := true
  /-- Directives, which go before the level. -/
  directives : Option (List Directive) := none
  target : Bool := true
  location : Bool := false
  threadIds : Bool := false
  deriving DecidableEq

namespace Options

/-- The variables that hold options. -/
def variableNames : List String := ["RECIPE_LOG_LEVEL", "RECIPE_LOG_JSON", "NO_COLOR", "RUST_LOG"]

/-- The options of an environment, with warnings. -/
def ofEnvironment (environment : Environment) : Options × List String :=
  let (level, warnings) := Level.parse ((environment "RECIPE_LOG_LEVEL").getD "info")
  let json := Settings.overridden environment "RECIPE_LOG_JSON" Settings.flag? false
  let styled := (environment "NO_COLOR").all String.isEmpty
  let directives := (environment "RUST_LOG").map Directive.listOf
  ({ level := level, json := json, styled := styled, directives := directives }, warnings)

/-- The level from which on events are logged, if any are. -/
def threshold (o : Options) : Option Level :=
  match o.directives with
  | some ds => Directive.inForce ds
  | none => some o.level

/-- How an event is logged. -/
def line (o : Options) (e : Event) : String :=
  if o.json then e.document.toJson.compact else e.text o.styled

/-- What is logged of a list of events. -/
def lines (o : Options) (events : List Event) : List String :=
  (events.filter fun e => o.threshold.any fun t => t.rank ≤ e.level.rank).map o.line

end Options

end CellRecipe.Logging
