import CellRecipe.CommandLine.Program

/-!
# Entry point

Shows the program the part of the world that its words name, and does to the world what the program
did to what it was shown.
-/

namespace CellRecipe.World

open CellRecipe.CommandLine

/-- What is at a path. -/
inductive Sight where
  | file (content : String)
  | directory
  | nothing

/-- Looks at a path. -/
def look (path : String) : IO Sight := do
  try
    return .file (← IO.FS.readFile path)
  catch
    | .inappropriateType .. => return .directory
    | _ => return .nothing

/-- The store with what has been seen at a path. -/
def record (s : FileStore) (path : String) : Sight → FileStore
  | .file content => { s with files := s.files.insert (Path.ofText path).text content }
  | .directory => { s with directories := path :: s.directories }
  | .nothing => s

/-- The paths that a command may read or write, and the directory of what it writes. -/
def paths (c : Command) : List String :=
  let outputs := c.output?.toList
  c.inputs ++ outputs ++ outputs.map fun path => (Path.ofText path).parent.text

/-- The files and directories that a command may come across. -/
def storeFor (c : Command) : IO FileStore :=
  (paths c).foldlM (fun s path => return record s path (← look path)) .empty

/-- The variables that the program knows. -/
def environment : IO Environment := do
  let seen ← (Settings.variableNames ++ Logging.Options.variableNames).mapM fun name =>
    return (name, ← IO.getEnv name)
  return fun name => (seen.lookup name).join

/-- Writes what a command has put into its output. -/
def writeOutput (c : Command) (outcome : Program.Outcome) : IO Unit := do
  if outcome.exitCode = 0 then
    for path in c.output? do
      for content in (outcome.store.read path).toOption do
        IO.FS.writeFile path content

end CellRecipe.World

/-- The program in the world. -/
def main (words : List String) : IO UInt32 := do
  let command := (CellRecipe.CommandLine.Arguments.ofWords words).toOption.map (·.command)
  let store ← (command.map CellRecipe.World.storeFor).getD (pure .empty)
  let outcome := CellRecipe.Program.invoke (← CellRecipe.World.environment) store words
  for c in command do
    CellRecipe.World.writeOutput c outcome
  IO.print outcome.display
  for line in outcome.errors do
    IO.eprintln line
  return outcome.exitCode.toUInt32
