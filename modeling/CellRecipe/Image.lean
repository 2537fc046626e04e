import CellRecipe.Document
import CellRecipe.Text.Character
import CellRecipe.Text.Split

/-!
# Image references

A reference to a container image, as a user writes it (`registry:5000/team/app:v2`,
`nginx@sha256:…`), and the form in which the scheduler takes it as a root filesystem,
`docker://host/path#tag`.

Everything before the first slash is the host. An image of the official registry without a namespace
belongs to `library/`. What follows the first `@` is a digest, what follows the last `:` is a tag,
and a reference with neither has the tag `latest`. A digest by `sha256` leaves its `@sha256` on the
path, so the tag holds the bare digest.

## Main definitions

* `ImageReference.parse`: the parts of a reference, or what is wrong with it.
* `ImageReference.text`: the scheduler's form.
-/

namespace CellRecipe

/-- The parts of an image reference. The host is empty when the reference names no registry. -/
structure ImageReference where
  host : String
  path : String
  tag : String
  deriving DecidableEq, Inhabited

namespace ImageReference

/-! ## The scheduler's form -/

/-- The scheme of every reference. -/
def scheme : String := "docker"

/-- The form that the scheduler takes. -/
def text (r : ImageReference) : String :=
  scheme ++ "://" ++ r.host ++ "/" ++ r.path ++ "#" ++ r.tag

/-! ## Faults -/

/-- What is wrong with a reference. -/
inductive Reason where
  | schemeGiven
  | empty
  | badPath
  | badTag
  deriving DecidableEq

/-- The words for a reason. -/
def Reason.message : Reason → String
  | .schemeGiven => "reference must not contain a scheme"
  | .empty => "reference is empty"
  | .badPath => "path contains invalid characters"
  | .badTag => "tag contains invalid characters"

/-- A reference that cannot be taken, without the blanks around it, and the reason. -/
structure Fault where
  reference : String
  reason : Reason
  deriving DecidableEq

/-- The words for a fault. -/
def Fault.message (f : Fault) : String := f.reference ++ ": " ++ f.reason.message

/-! ## Parts -/

/-- The registry whose images may stand without a namespace. -/
def officialRegistry : List Char := "docker.io".toList

/-- The namespace of the official images. -/
def officialNamespace : List Char := "library/".toList

/-- The tag of a reference that gives none. -/
def latest : List Char := "latest".toList

/-- What a digest mark adds to the path. -/
def digestSuffix : List Char := "@sha256".toList

/-- What stands before the digits of a digest. -/
def digestMark : List Char := digestSuffix ++ [':']

/-- May the character stand in a path? -/
def isPathChar (c : Char) : Bool :=
  Text.isLower c || Text.isDigit c || c == '_' || c == '-' || c == '.' || c == '/'

/-- May the character stand in a tag or digest? -/
def isTagChar (c : Char) : Bool :=
  Text.isLower c || Text.isUpper c || Text.isDigit c || c == '_' || c == '-' || c == '.' || c == '@'
    || c == ':'

/-- Are there from `low` to `high` characters, all of the class? -/
def isRun (low high : Nat) (ofClass : Char → Bool) (cs : List Char) : Bool :=
  decide (low ≤ cs.length) && decide (cs.length ≤ high) && cs.all ofClass

/-- A path of two to 255 characters. -/
def isPath (cs : List Char) : Bool := isRun 2 255 isPathChar cs

/-- A tag, or a digest with the `@` before it, of at most 128 characters. -/
def isTag (cs : List Char) : Bool := isRun 1 128 isTagChar cs

/-- The host before the first slash and what follows it. -/
def splitHost (cs : List Char) : List Char × List Char :=
  (Text.splitFirst '/' cs).getD ([], cs)

/-- The name and its tag; a digest keeps the `@` in front. -/
def splitTag (cs : List Char) : List Char × List Char :=
  match Text.splitFirst '@' cs with
  | some (name, digest) => (name, '@' :: digest)
  | none =>
    match Text.splitLast ':' cs with
    | some (name, tag) => if tag.contains '/' then (cs, latest) else (name, tag)
    | none => (cs, latest)

/-- The path of a name: official images belong to a namespace of their own. -/
def pathOf (host name : List Char) : List Char :=
  if (host.isEmpty || host == officialRegistry) && !name.contains '/' then
    officialNamespace ++ name
  else name

/-- The reference with a path and a tag: the mark of a digest goes to the path. -/
def ofParts (host path tag : List Char) : ImageReference :=
  if digestMark.isPrefixOf tag then
    ⟨String.ofList host, String.ofList (path ++ digestSuffix),
      String.ofList (tag.drop digestMark.length)⟩
  else ⟨String.ofList host, String.ofList path, String.ofList tag⟩

/-! ## Reading -/

/-- The parts of a reference without blanks around it. -/
def parseChars (cs : List Char) : Except Reason ImageReference :=
  if Text.hasScheme cs then .error .schemeGiven
  else if cs.isEmpty then .error .empty
  else
    let (host, rest) := splitHost cs
    let (name, tag) := splitTag rest
    let path := pathOf host name
    if !isPath path then .error .badPath
    else if !isTag tag then .error .badTag
    else .ok (ofParts host path tag)

/-- The parts of a reference; blanks around it do not count. -/
def parse (raw : String) : Except Fault ImageReference :=
  let cs := Text.trimChars raw.toList
  (parseChars cs).mapError fun reason => ⟨String.ofList cs, reason⟩

/-! ## Writing -/

/-- The parts as they are written. -/
def document (r : ImageReference) : Document :=
  .record [("scheme", .text scheme), ("host", .text r.host), ("path", .text r.path),
    ("tag", .text r.tag)]

/-- The scheduler's form and the parts that it is made of. -/
def summary (r : ImageReference) : Document :=
  .record [("reference", .text r.text), ("host", .text r.host), ("path", .text r.path),
    ("tag", .text r.tag)]

end ImageReference

end CellRecipe
