import CellRecipe.Table
import CellRecipe.Text.Split

/-!
# File stores

The files that the program sees, by their paths. A path is a list of steps, from the root or from
the directory in which the program runs; single dots and repeated slashes in it mean nothing. A
directory is there if it is listed, or as long as a file is in it.

## Main definitions

* `Path.ofText`: the steps of a path.
* `FileStore.read`, `FileStore.write`: the content of a file, and a store with a new one.

## Main results

* `FileStore.read_write`: what has been written can be read.
* `FileStore.get?_write`: only the path that is written gets a new content.
-/

namespace CellRecipe

/-! ## Paths -/

/-- A way to a file or a directory. -/
structure Path where
  /-- Does the way start in the root? -/
  absolute : Bool
  steps : List (List Char)
  deriving DecidableEq

namespace Path

/-- The path that a text names. -/
def ofText (s : String) : Path where
  absolute := s.toList.head? == some '/'
  steps := (Text.splitAll '/' s.toList).filter fun step => !(step.isEmpty || step == ['.'])

/-- The text of a path, the same for all texts that name it. -/
def text (p : Path) : String :=
  String.ofList ((if p.absolute then ['/'] else []) ++ List.intercalate ['/'] p.steps)

/-- The path after some of its steps. -/
def take (p : Path) (n : Nat) : Path := { p with steps := p.steps.take n }

/-- Is the directory `p` passed on the way `q`, or its end? -/
def isOn (p q : Path) : Bool := p.absolute == q.absolute && p.steps.isPrefixOf q.steps

/-- The directory that holds the end of the path. -/
def parent (p : Path) : Path := { p with steps := p.steps.dropLast }

end Path

/-! ## Faults -/

/-- Why a file cannot be read or written. -/
inductive FileFault where
  | missing
  | notDirectory
  | isDirectory
  | nameTooLong
  | zeroInName
  deriving DecidableEq, Inhabited

/-- The words for a fault. -/
def FileFault.message : FileFault → String
  | .missing => "No such file or directory (os error 2)"
  | .notDirectory => "Not a directory (os error 20)"
  | .isDirectory => "Is a directory (os error 21)"
  | .nameTooLong => "File name too long (os error 36)"
  | .zeroInName => "file name contained an unexpected NUL byte"

/-! ## Stores -/

/-- The contents of files by their paths, and directories that are there without a file. -/
structure FileStore where
  files : Table String
  directories : List String := []

namespace FileStore

/-- The store without files. -/
def empty : FileStore := ⟨.empty, []⟩

/-- The store of the given files. -/
def ofList (files : List (String × String)) : FileStore :=
  ⟨.ofList (files.map fun f => ((Path.ofText f.1).text, f.2)), []⟩

/-- The file at a path. -/
def get? (s : FileStore) (path : String) : Option String := s.files.get? (Path.ofText path).text

/-- Is there a directory at the end of the path? The directory in which the program runs is there,
and so are those above it. -/
def hasDirectory (s : FileStore) (p : Path) : Bool :=
  p.steps.all (· == ['.', '.'])
    || s.directories.any (fun d => p.isOn (Path.ofText d))
    || s.files.entries.any fun e => p.isOn (Path.ofText e.1).parent

/-- The longest name of a file, in bytes. -/
def maxNameSize : Nat := 255

/-- The first size of a path, in bytes, that is too long. -/
def pathSizeLimit : Nat := 4096

/-- What is wrong with the text of a path, whatever the store holds. -/
def textFault? (path : String) : Option FileFault :=
  if path.toList.contains '\x00' then some .zeroInName
  else if path.isEmpty then some .missing
  else if pathSizeLimit ≤ path.utf8ByteSize then some .nameTooLong
  else none

/-- Is the name too long for a file? -/
def isLongName (name : List Char) : Bool := maxNameSize < (String.ofList name).utf8ByteSize

/-- What stops the way at one of its steps. -/
def stepFault? (s : FileStore) (p : Path) (n : Nat) : Option FileFault :=
  let above := p.take n
  if (s.files.get? above.text).isSome then some .notDirectory
  else if !s.hasDirectory above then some .missing
  else if p.steps[n]?.any isLongName then some .nameTooLong
  else none

/-- What stops the way before its end. -/
def wayFault? (s : FileStore) (path : String) : Option FileFault :=
  let p := Path.ofText path
  textFault? path <|> (List.range p.steps.length).findSome? (s.stepFault? p)

/-- Does the text end in a slash, and so name a directory? -/
def namesDirectory (path : String) : Bool := path.toList.getLast? == some '/'

/-- Why a path that is no file cannot be read. -/
def readFault (s : FileStore) (path : String) : FileFault :=
  (s.wayFault? path).getD (if s.hasDirectory (Path.ofText path) then .isDirectory else .missing)

/-- The content of a file. -/
def read (s : FileStore) (path : String) : Except FileFault String :=
  match s.get? path with
  | some content => if namesDirectory path then .error .notDirectory else .ok content
  | none => .error (s.readFault path)

/-- Why a path cannot be written, if it cannot. -/
def writeFault? (s : FileStore) (path : String) : Option FileFault :=
  s.wayFault? path <|>
    if namesDirectory path || s.hasDirectory (Path.ofText path) then some .isDirectory else none

/-- The store with a file at a path, in place of the one that was there. -/
def write (s : FileStore) (path content : String) : Except FileFault FileStore :=
  match s.writeFault? path with
  | some fault => .error fault
  | none => .ok { s with files := s.files.insert (Path.ofText path).text content }

theorem get?_write {s t : FileStore} {path content : String} (h : s.write path content = .ok t)
    (other : String) :
    t.get? other
      = if (Path.ofText other).text = (Path.ofText path).text then some content
        else s.get? other := by
  unfold write at h
  split at h
  · simp at h
  · cases h
    exact Table.get?_insert _ _ _ _

theorem namesDirectory_of_write {s t : FileStore} {path content : String}
    (h : s.write path content = .ok t) : namesDirectory path = false := by
  cases hd : namesDirectory path with
  | false => rfl
  | true =>
    unfold write at h
    have hf : (s.writeFault? path).isSome := by
      simp only [writeFault?, hd, Bool.true_or, if_true]
      cases s.wayFault? path <;> rfl
    cases hw : s.writeFault? path with
    | none => simp [hw] at hf
    | some fault => simp [hw] at h

/-- What has been written can be read. -/
theorem read_write {s t : FileStore} {path content : String} (h : s.write path content = .ok t) :
    t.read path = .ok content := by
  have hg := get?_write h path
  simp only [if_true] at hg
  simp [read, hg, namesDirectory_of_write h]

end FileStore

end CellRecipe
