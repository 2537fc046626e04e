import CellRecipe.Json.Printer
import CellRecipe.MountedFile
import CellRecipe.ServiceBinding.Presentation
import CellRecipe.Text.Character

/-!
# Bindings as files

Two layouts carry finished bindings into a container. One has a directory for each binding and in it
a file for each credential and attribute; the other is a single file with the object of all
bindings. Both hold at most a million bytes, paths and contents together.

In a directory the credentials come first, then the presented attributes with hyphens in their
names, then `type` and `provider`, which both hold the label. Values that are `null`, and empty
lists and objects, are no files. A text is written as it is, any other value as JSON.

Names of bindings and files are made of lower case letters, digits, `-` and `.`, and no two bindings
share a name.

## Main definitions

* `ServiceBinding.entries`: what a binding writes, in order.
* `ServiceBinding.perBinding`: the files of the first layout, or what is at fault.
* `ServiceBinding.blob`: the file of the second layout.
-/

namespace CellRecipe.ServiceBinding

/-! ## Faults -/

/-- Why bindings cannot be turned into files. -/
inductive Fault where
  | badBindingName (name : String)
  | repeatedName (name : String)
  | badFileName (name : String)
  | tooLarge (bytes : Nat)
  deriving DecidableEq

/-- The most bytes that the files may have. -/
def maxBytes : Nat := 1000000

/-- The pattern of names. -/
def namePattern : String := "^[a-z0-9\\-.]\x7b1,253\x7d$"

/-- The words for a fault. -/
def Fault.message : Fault → String
  | .badBindingName name =>
    "Invalid binding name: '" ++ name ++ "'. Name must match /" ++ namePattern ++ "/"
  | .repeatedName name => "Duplicate binding name: " ++ name
  | .badFileName name => "Invalid file name: " ++ name
  | .tooLarge bytes =>
    "Bindings exceed the maximum allowed bytesize of " ++ toString maxBytes ++ ": "
      ++ toString bytes

/-! ## Names -/

/-- May the character stand in a name? -/
def isNameChar (c : Char) : Bool := Text.isLower c || Text.isDigit c || c == '-' || c == '.'

/-- Is the text a name for a binding or a file? -/
def isName (s : String) : Bool :=
  let cs := s.toList
  decide (1 ≤ cs.length) && decide (cs.length ≤ 253) && cs.all isNameChar

/-- The attributes whose files have hyphens in their names. -/
def hyphenated : List String :=
  ["binding_guid", "binding_name", "instance_guid", "instance_name", "syslog_drain_url",
    "volume_mounts"]

/-- The name of an attribute's file. -/
def fileName (key : String) : String :=
  if hyphenated.contains key then key.map fun c => if c = '_' then '-' else c else key

/-! ## What a binding writes -/

/-- The presented attributes but the credentials, under the names of their files. -/
def attributeEntries (b : ServiceBinding) : Json.Members :=
  (b.presented.filter fun m => m.1 != "credentials").map fun m => (fileName m.1, m.2)

/-- Everything that a binding writes, in order. -/
def entries (b : ServiceBinding) : Json.Members :=
  b.credentials.members ++ attributeEntries b
    ++ [("type", .string b.serviceInstance.label), ("provider", .string b.serviceInstance.label)]

/-- The content of a value's file, or none if the value is no file. -/
def content? : Json → Option String
  | .null => none
  | .string s => some s
  | .array [] => none
  | .object [] => none
  | j => some j.compact

/-- The file of a value in the directory of a binding. -/
def file? (directory : String) (entry : String × Json) : Option MountedFile :=
  (content? entry.2).map fun content => ⟨directory ++ "/" ++ entry.1, content⟩

/-- The files that a binding writes, in order. -/
def writes (b : ServiceBinding) : List MountedFile := b.entries.filterMap (file? b.displayName)

/-! ## The layouts -/

/-- The first fault in the names of a binding, where `taken` are the names before it. -/
def nameFault? (taken : List String) (b : ServiceBinding) : Option Fault :=
  if !isName b.displayName then some (.badBindingName b.displayName)
  else if taken.contains b.displayName then some (.repeatedName b.displayName)
  else (b.entries.find? fun e => !isName e.1).map fun e => .badFileName e.1

/-- The first fault in the names of the bindings. -/
def namesFault? (taken : List String) : List ServiceBinding → Option Fault
  | [] => none
  | b :: rest => (nameFault? taken b) <|> namesFault? (b.displayName :: taken) rest

/-- The files of all finished bindings, each in the directory of its binding. -/
def perBinding (bindings : List ServiceBinding) : Except Fault (List MountedFile) :=
  let counted := finished bindings
  match namesFault? [] counted with
  | some fault => .error fault
  | none =>
    let set := FileSet.ofWrites (counted.flatMap writes)
    if set.totalBytes ≤ maxBytes then .ok set.files.toList else .error (.tooLarge set.totalBytes)

/-- The path of the file with all bindings. -/
def blobPath : String := "vcap_services"

/-- One file with all finished bindings. -/
def blob (bindings : List ServiceBinding) : Except Fault MountedFile :=
  let file : MountedFile := ⟨blobPath, (services bindings).compact⟩
  if file.byteSize ≤ maxBytes then .ok file else .error (.tooLarge file.byteSize)

end CellRecipe.ServiceBinding
