import CellRecipe.CommandLine.Arguments
import CellRecipe.Text.Split

/-!
# Reading a command line

The words after the program's name, read from left to right. Options stand before or after the
command that they hold for; those of the whole program may stand on either side. A value is the next
word, or is attached to its option: `--input=file`, `-ifile` and `-i=file`. After `--` every word is
an operand.

An option that is not known is a misuse at once. The value of an option is judged only when the next
option, flag or operand is read, so of two misuses the one that is judged first counts. Words after
a command are all judged before what is missing in front of it.

## Main definitions

* `Arguments.ofWords`: the arguments that the words give.
-/

namespace CellRecipe.CommandLine

/-! ## Options -/

/-- The options of the program and of its commands. -/
inductive Switch where
  | config
  | input
  | format
  | output
  | logLevel
  | verbose
  | quiet
  | help
  | version
  deriving DecidableEq, Inhabited

namespace Switch

/-- The long name. -/
def long : Switch → String
  | .config => "config"
  | .input => "input"
  | .format => "format"
  | .output => "output"
  | .logLevel => "log-level"
  | .verbose => "verbose"
  | .quiet => "quiet"
  | .help => "help"
  | .version => "version"

/-- The short name, if there is one. -/
def short? : Switch → Option Char
  | .config => some 'c'
  | .input => some 'i'
  | .format => some 'f'
  | .output => some 'o'
  | .logLevel => none
  | .verbose => some 'v'
  | .quiet => some 'q'
  | .help => some 'h'
  | .version => some 'V'

/-- Does the option take a value? -/
def takesValue : Switch → Bool
  | .config => true
  | .input => true
  | .format => true
  | .output => true
  | .logLevel => true
  | _ => false

/-- The format of a name. -/
def format? (s : String) : Option OutputFormat :=
  if s = "json" then some .json else if s = "yaml" then some .yaml else none

/-- Is the value one that the option takes? A path is never empty. -/
def accepts : Switch → String → Bool
  | .config, v => !v.isEmpty
  | .input, v => !v.isEmpty
  | .output, v => !v.isEmpty
  | .format, v => (format? v).isSome
  | _, _ => true

end Switch

/-- The commands of the program. -/
inductive CommandName where
  | stage
  | run
  | classify
  | image
  deriving DecidableEq, Inhabited

namespace CommandName

/-- The command of a name. -/
def ofName? (s : String) : Option CommandName :=
  if s = "stage" then some .stage
  else if s = "run" then some .run
  else if s = "classify" then some .classify
  else if s = "image" then some .image
  else none

/-- Does the command build a recipe? -/
def buildsRecipe : CommandName → Bool
  | .stage => true
  | .run => true
  | _ => false

end CommandName

/-- Where words stand: before a command, or after it. -/
inductive Scope where
  | program
  | command (name : CommandName)
  deriving DecidableEq

namespace Scope

/-- The options that may be given. -/
def switches : Scope → List Switch
  | .program => [.logLevel, .verbose, .quiet, .help, .version]
  | .command name =>
    (if name.buildsRecipe then [.config, .input, .format, .output] else [.format])
      ++ [.logLevel, .verbose, .quiet, .help]

/-- How many operands may be given. -/
def operands : Scope → Nat
  | .program => 0
  | .command name => if name.buildsRecipe then 0 else 1

/-- The option of a long name. -/
def long? (s : Scope) (name : List Char) : Option Switch :=
  s.switches.find? fun o => o.long.toList == name

/-- The option of a short name. -/
def short? (s : Scope) (name : Char) : Option Switch :=
  s.switches.find? fun o => o.short? == some name

end Scope

/-! ## Words of one scope -/

/-- An option whose value has not been judged yet. -/
structure Pending where
  switch : Switch
  value : Option String
  deriving DecidableEq

/-- What has been read in a scope. -/
structure Given where
  /-- The options with their values, flags with an empty one. -/
  values : List (Switch × String) := []
  pending : Option Pending := none
  operands : List String := []
  /-- Has `--` been passed? -/
  onlyOperands : Bool := false

namespace Given

/-- Is an option waiting for its value? -/
def isWaiting (g : Given) : Bool := g.pending.any fun p => p.value.isNone

/-- Has the option been given? -/
def has (g : Given) (s : Switch) : Bool := g.values.any fun v => v.1 == s

/-- The value of an option. -/
def value? (g : Given) (s : Switch) : Option String := g.values.lookup s

/-- An option with a value, which may be given only once. -/
def take (g : Given) (s : Switch) (value : String) : Except Misuse Given :=
  if g.has s then .error .conflict
  else if s.accepts value then .ok { g with values := (s, value) :: g.values }
  else .error .badValue

/-- Judges the option whose value has not been judged yet. -/
def settle (g : Given) : Except Misuse Given :=
  match g.pending with
  | none => .ok g
  | some p =>
    match p.value with
    | none => .error .badValue
    | some v => { g with pending := none }.take p.switch v

/-- A flag. -/
def takeFlag (g : Given) (s : Switch) : Except Misuse Given := do
  let g ← g.settle
  match s with
  | .help => throw .helpRequested
  | .version => throw .versionRequested
  | _ => g.take s ""

/-- An option with its attached value, or one that waits for it. -/
def takeOption (g : Given) (s : Switch) : Option String → Except Misuse Given
  | some v => do (← g.settle).take s v
  | none => do return { ← g.settle with pending := some ⟨s, none⟩ }

/-- A long option, without its dashes. -/
def longWord (scope : Scope) (g : Given) (cs : List Char) : Except Misuse Given :=
  let (name, value) :=
    match Text.splitFirst '=' cs with
    | some (name, value) => (name, some (String.ofList value))
    | none => (cs, none)
  match scope.long? name with
  | none => .error .unknownArgument
  | some s =>
    if s.takesValue then g.takeOption s value
    else if value.isSome then .error .unwantedValue
    else g.takeFlag s

/-- The value that is attached to a short option. -/
def attached? : List Char → Option String
  | [] => none
  | '=' :: rest => some (String.ofList rest)
  | cs => some (String.ofList cs)

/-- Short options in one word, without the dash: flags, and maybe an option with its value. -/
def shortWord (scope : Scope) (g : Given) : List Char → Except Misuse Given
  | [] => .ok g
  | c :: rest =>
    match scope.short? c with
    | none => .error .unknownArgument
    | some s =>
      if s.takesValue then g.takeOption s (attached? rest)
      else do shortWord scope (← g.takeFlag s) rest

/-- An operand that the scope has no place for. -/
def strayOperand (scope : Scope) (g : Given) (word : String) : Misuse :=
  match scope with
  | .command _ => .unknownArgument
  | .program =>
    if g.onlyOperands && (word == "help" || (CommandName.ofName? word).isSome) then .unknownArgument
    else .unknownCommand

/-- An operand. -/
def operand (scope : Scope) (g : Given) (word : String) : Except Misuse Given :=
  if g.operands.length < scope.operands then do
    let g ← g.settle
    return { g with operands := g.operands ++ [word] }
  else .error (strayOperand scope g word)

/-- One more word. -/
def addWord (scope : Scope) (g : Given) (word : String) : Except Misuse Given :=
  if g.onlyOperands then g.operand scope word
  else
    match word.toList with
    | ['-', '-'] => .ok { g with onlyOperands := true }
    | '-' :: '-' :: cs => g.longWord scope cs
    | '-' :: c :: cs => g.shortWord scope (c :: cs)
    | _ =>
      match g.pending with
      | some ⟨s, none⟩ => .ok { g with pending := some ⟨s, some word⟩ }
      | _ => g.operand scope word

/-- Judges what is left when all words are read. -/
def finish (g : Given) : Except Misuse Given := do
  let g ← g.settle
  if g.has .verbose && g.has .quiet then throw .conflict
  return g

end Given

/-! ## Commands -/

/-- The format that is asked for. -/
def formatOf (g : Given) : OutputFormat := ((g.value? .format).bind Switch.format?).getD .json

/-- The command of the words after its name. -/
def commandOf (name : CommandName) (g : Given) : Except Misuse Command :=
  let recipe : Except Misuse RecipeArguments :=
    match g.value? .input with
    | some input => .ok ⟨g.value? .config, input, formatOf g, g.value? .output⟩
    | none => .error .missingArgument
  let operand : Except Misuse String :=
    match g.operands with
    | word :: _ => .ok word
    | [] => .error .missingArgument
  match name with
  | .stage => recipe.map .stage
  | .run => recipe.map .run
  | .classify => operand.map fun word => .classify word (formatOf g)
  | .image => operand.map fun word => .image word (formatOf g)

/-- The command and its options, from the words after its name. -/
def readCommand (name : CommandName) (words : List String) : Except Misuse (Command × Given) := do
  let g ← words.foldlM (Given.addWord (.command name)) {}
  let g ← g.finish
  return (← commandOf name g, g)

/-- What a request for help gives: help about a command, if there is one of that name. -/
def helpAbout : List String → Misuse
  | [] => .helpRequested
  | [word] =>
    if word == "help" || (CommandName.ofName? word).isSome then .helpRequested else .unknownCommand
  | _ => .unknownCommand

/-- Judges the options before a command when the command is read. -/
def joined (before : Given) (command : Command) (after : Given) : Except Misuse Arguments := do
  let before ← before.finish
  return {
    command := command
    logLevel := after.value? .logLevel <|> before.value? .logLevel
    verbose := before.has .verbose || after.has .verbose
    quiet := before.has .quiet || after.has .quiet }

/-- Why there is no command among words that hold none. -/
def withoutCommand (before : Given) : Misuse :=
  match before.settle with
  | .error misuse => misuse
  | .ok g => if g.values.isEmpty then .nothingGiven else .missingCommand

/-- The arguments of the words that are left. -/
def readWords (before : Given) : List String → Except Misuse Arguments
  | [] => .error (withoutCommand before)
  | word :: rest =>
    if !before.onlyOperands && !before.isWaiting && word == "help" then .error (helpAbout rest)
    else
      match if before.onlyOperands || before.isWaiting then none else CommandName.ofName? word with
      | some name => do
        let (command, after) ← readCommand name rest
        joined before command after
      | none => do readWords (← before.addWord .program word) rest

/-- The arguments that the words after the program's name give. -/
def Arguments.ofWords (words : List String) : Except Misuse Arguments := readWords {} words

end CellRecipe.CommandLine
