import CellRecipe.Document
import CellRecipe.Json.Printer
import CellRecipe.Text.Character
import CellRecipe.Yaml.Printer

/-!
# Arguments of the command line

What a user can ask for, and what can be wrong with the words of a command line.

Documents are handed out in one of two formats. A file gets the text of a document as it is; on a
terminal the blanks at its end give way to one line break.

## Main definitions

* `OutputFormat.render`, `OutputFormat.display`: the text of a document in a file and on a terminal.
* `Arguments`: a command and the options that hold for all commands.
* `Misuse`: why words are no command, requests for help among them.
-/

namespace CellRecipe

/-! ## Formats -/

/-- A format for documents. -/
inductive OutputFormat where
  | json
  | yaml
  deriving DecidableEq, Inhabited

namespace OutputFormat

/-- The text of a document. -/
def render (format : OutputFormat) (d : Document) : String :=
  match format with
  | .json => d.toJson.indented
  | .yaml => Yaml.render d

/-- The text of a document on a terminal. -/
def display (format : OutputFormat) (d : Document) : String :=
  Text.trimEnd (format.render d) ++ "\n"

end OutputFormat

namespace CommandLine

/-! ## Commands -/

/-- What a recipe is built from and where it goes. -/
structure RecipeArguments where
  config : Option String
  input : String
  format : OutputFormat
  output : Option String
  deriving DecidableEq, Inhabited

/-- What a user can ask for. -/
inductive Command where
  | stage (arguments : RecipeArguments)
  | run (arguments : RecipeArguments)
  | classify (message : String) (format : OutputFormat)
  | image (reference : String) (format : OutputFormat)
  deriving DecidableEq, Inhabited

/-- The name of a command. -/
def Command.name : Command → String
  | .stage _ => "stage"
  | .run _ => "run"
  | .classify _ _ => "classify"
  | .image _ _ => "image"

/-- The files that a command reads. -/
def Command.inputs : Command → List String
  | .stage a => a.config.toList ++ [a.input]
  | .run a => a.config.toList ++ [a.input]
  | _ => []

/-- The file that a command writes. -/
def Command.output? : Command → Option String
  | .stage a => a.output
  | .run a => a.output
  | _ => none

/-- A command and the options that hold for all commands. -/
structure Arguments where
  command : Command
  logLevel : Option String
  verbose : Bool
  quiet : Bool
  deriving DecidableEq, Inhabited

/-! ## Misuse -/

/-- Why words are no command. -/
inductive Misuse where
  | helpRequested
  | versionRequested
  | nothingGiven
  | missingCommand
  | unknownCommand
  | unknownArgument
  | missingArgument
  | badValue
  | unwantedValue
  | conflict
  deriving DecidableEq, Inhabited

/-- The words for a misuse. -/
def Misuse.message : Misuse → String
  | .helpRequested => "help requested"
  | .versionRequested => "version requested"
  | .nothingGiven => "nothing to do"
  | .missingCommand => "no command given"
  | .unknownCommand => "unknown command"
  | .unknownArgument => "unknown argument"
  | .missingArgument => "a required argument is missing"
  | .badValue => "a value is missing or invalid"
  | .unwantedValue => "an option takes no value"
  | .conflict => "arguments exclude each other"

end CommandLine

end CellRecipe
