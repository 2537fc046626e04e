import CellRecipe.CommandLine.Journal
import CellRecipe.CommandLine.Reader
import CellRecipe.Failure
import CellRecipe.Json.Reader
import CellRecipe.Settings.File

/-!
# The program

What a command does, given the environment and the files that it sees: the text for the terminal,
the lines of warnings, of the log and of errors, the exit code and the files afterwards. Files
change only when a command succeeds, and then only the one that it was told to write.

## Main definitions

* `Program.stage`, `Program.run`: the commands that build recipes.
* `Program.carryOut`: a command, from its arguments to its end.
* `Program.invoke`: the program for the words of a command line.
-/

namespace CellRecipe.Program

open CellRecipe.CommandLine

/-- The name of the program. -/
def name : String := "recipe-compiler"

/-- The version of the program. -/
def version : String := "0.3.0"

/-! ## Faults -/

/-- Why a command fails. -/
inductive Fault where
  | settings (path : Option String) (fault : SettingsFault)
  | unreadableInput (path : String) (fault : FileFault)
  | malformedInput (path : String)
  | refused (refusal : Refusal)
  | unwritable (path : String) (fault : FileFault)
  deriving DecidableEq

/-- The words for a fault. -/
def Fault.message : Fault → String
  | .settings path fault =>
    match path, fault with
    | _, .invalid _ => "Invalid configuration: " ++ fault.message
    | some path, _ => "Failed to load config from " ++ path ++ ": " ++ fault.message
    | none, _ => fault.message
  | .unreadableInput path fault => "Failed to read input file " ++ path ++ ": " ++ fault.message
  | .malformedInput path => "Failed to parse input file " ++ path
  | .refused refusal => refusal.fullMessage
  | .unwritable path fault => "Failed to write output to " ++ path ++ ": " ++ fault.message

/-- The events of a fault. -/
def Fault.events : Fault → List Logging.Event
  | .refused refusal => [Journal.ofRefusal refusal]
  | _ => []

/-! ## Traced results -/

/-- A result, and the events on the way to it. -/
structure Traced (α : Type) where
  events : List Logging.Event
  result : Except Fault α

namespace Traced

/-- A result without events. -/
def silent (result : Except Fault α) : Traced α := ⟨[], result⟩

/-- An event that does not end the way. -/
def event (e : Logging.Event) : Traced Unit := ⟨[e], .ok ()⟩

/-- What follows on a result; nothing follows on a fault. -/
def bind (x : Traced α) (f : α → Traced β) : Traced β :=
  match x.result with
  | .ok a => ⟨x.events ++ (f a).events, (f a).result⟩
  | .error fault => ⟨x.events, .error fault⟩

instance : Monad Traced where
  pure a := silent (.ok a)
  bind := bind

/-- Events have no part in results. -/
theorem result_bind (x : Traced α) (f : α → Traced β) :
    (x >>= f).result = x.result >>= fun a => (f a).result := by
  show (bind x f).result = _
  unfold bind
  cases x.result <;> rfl

end Traced

/-! ## Commands -/

/-- What a successful command leaves behind: text for the terminal, and the files. -/
structure Success where
  display : String
  store : FileStore

/-- The settings for a command. -/
def settings (environment : Environment) (store : FileStore) (path : Option String) :
    Except Fault Settings :=
  (Settings.load environment store path).mapError (.settings path)

/-- The request in a file. -/
def request (decode : Json.Source → Option α) (store : FileStore) (path : String) :
    Except Fault α :=
  match store.read path with
  | .error fault => .error (.unreadableInput path fault)
  | .ok content =>
    match (Json.Source.parse? content).bind decode with
    | some found => .ok found
    | none => .error (.malformedInput path)

/-- Hands a document out, to a file or to the terminal. -/
def handOut (store : FileStore) (format : OutputFormat) (path : Option String) (d : Document) :
    Except Fault Success :=
  match path with
  | none => .ok ⟨format.display d, store⟩
  | some path =>
    match store.write path (format.render d) with
    | .ok store => .ok ⟨"", store⟩
    | .error fault => .error (.unwritable path fault)

/-- A recipe, or why there is none, with the events of building it. -/
def traced (events : Except Refusal Recipe → List Logging.Event) (built : Except Refusal Recipe) :
    Traced Recipe :=
  ⟨events built, built.mapError .refused⟩

/-- Builds a recipe from a request in a file and hands it out. -/
def build (decode : Json.Source → Option α) (recipe : Settings → α → Except Refusal Recipe)
    (events : α → Except Refusal Recipe → List Logging.Event)
    (environment : Environment) (store : FileStore) (a : RecipeArguments) : Traced Success := do
  let s ← .silent (settings environment store a.config)
  .event (Journal.ofSettings s)
  let found ← .silent (request decode store a.input)
  let r ← traced (events found) (recipe s found)
  .silent (handOut store a.format a.output r.document)

/-- Builds the recipe of a staging request. -/
def stage : Environment → FileStore → RecipeArguments → Traced Success :=
  build StagingRequest.ofJson? Recipe.ofStaging Journal.ofStaging

/-- Builds the recipe of a run request. -/
def run : Environment → FileStore → RecipeArguments → Traced Success :=
  build RunRequest.ofJson? Recipe.ofRun Journal.ofRun

/-- Tells the reason behind the text of a failure. -/
def classify (store : FileStore) (message : String) (format : OutputFormat) :
    Except Fault Success :=
  handOut store format none (Failure.classify message).document

/-- Takes an image reference apart. -/
def image (store : FileStore) (reference : String) (format : OutputFormat) :
    Except Fault Success :=
  match ImageReference.parse reference with
  | .ok r => handOut store format none r.summary
  | .error fault => .error (.refused (.image fault))

/-- Does what a command asks for. -/
def perform (environment : Environment) (store : FileStore) : Command → Traced Success
  | .stage a => stage environment store a
  | .run a => run environment store a
  | .classify message format => .silent (classify store message format)
  | .image reference format => .silent (image store reference format)

/-! ## The program -/

/-- What a run of the program leaves behind. -/
structure Outcome where
  exitCode : Nat
  display : String
  errors : List String
  store : FileStore

/-- What the program leaves behind when its words are no command. -/
def misused (store : FileStore) : Misuse → Outcome
  | .helpRequested => ⟨0, "Usage: " ++ name ++ " [OPTIONS] <COMMAND>\n", [], store⟩
  | .versionRequested => ⟨0, name ++ " " ++ version ++ "\n", [], store⟩
  | misuse => ⟨2, "", ["error: " ++ misuse.message], store⟩

/-- The options of logging, from the environment and the arguments, and the warnings about names of
levels that are none. Arguments go before the environment. -/
def logging (environment : Environment) (a : Arguments) : Logging.Options × List String :=
  let (o, warnings) := Logging.Options.ofEnvironment environment
  match a.logLevel with
  | some name =>
    let (level, more) := Logging.Level.parse name
    ({ o with level := level }, warnings ++ more)
  | none =>
    let level := if a.verbose then .debug else if a.quiet then .error else o.level
    ({ o with level := level }, warnings)

/-- Does the command of the arguments and tells how it ended. Where it fails, the files are as they
were. -/
def carryOut (environment : Environment) (store : FileStore) (a : Arguments) : Outcome :=
  let (options, warnings) := logging environment a
  let course := perform environment store a.command
  let lines := warnings ++ options.lines course.events
  match course.result with
  | .ok success => ⟨0, success.display, lines, success.store⟩
  | .error fault =>
    ⟨1, "", lines ++ options.lines fault.events ++ ["Error: " ++ fault.message], store⟩

/-- The program for the words after its name. -/
def invoke (environment : Environment) (store : FileStore) (words : List String) : Outcome :=
  match Arguments.ofWords words with
  | .error misuse => misused store misuse
  | .ok a => carryOut environment store a

end CellRecipe.Program
