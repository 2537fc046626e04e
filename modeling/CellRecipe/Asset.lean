import CellRecipe.Document
import CellRecipe.Json.Record

/-!
# Assets of a container

What is put into a container before its actions run: files that are fetched once per cell and then
shared (`CachedDependency`), layers on top of the root filesystem (`ImageLayer`), and the
credentials for the registry that the root filesystem comes from.
-/

namespace CellRecipe

/-- A file that a cell fetches once and keeps. -/
structure CachedDependency where
  name : String := ""
  source : String
  target : String
  cacheKey : String
  logSource : String := ""
  deriving DecidableEq, Inhabited

namespace CachedDependency

/-- The dependency as it is written. -/
def document (d : CachedDependency) : Document :=
  .record [
    ("name", .text d.name),
    ("from", .text d.source),
    ("to", .text d.target),
    ("cache_key", .text d.cacheKey),
    ("log_source", .text d.logSource)]

/-- The dependency that a JSON value stands for. -/
def ofJson? (j : Json.Source) : Option CachedDependency := do
  let r ← Json.Record.of? ["name", "from", "to", "cache_key", "log_source"] j
  return {
    name := ← r.required "name" Json.text?
    source := ← r.required "from" Json.text?
    target := ← r.required "to" Json.text?
    cacheKey := ← r.required "cache_key" Json.text?
    logSource := ← r.withDefault "log_source" "" Json.text? }

end CachedDependency

/-- Is a layer shared with other containers? -/
inductive Sharing where
  | shared
  | exclusive
  deriving DecidableEq, Inhabited

namespace Sharing

/-- The name of a kind of layer. -/
def name : Sharing → String
  | .shared => "SHARED"
  | .exclusive => "EXCLUSIVE"

/-- The kind of layer that a JSON value names. -/
def ofJson? (j : Json.Source) : Option Sharing :=
  (Json.caseName? j).bind fun s => [shared, exclusive].find? fun k => k.name == s

end Sharing

/-- How the files of a layer are packed. -/
inductive Packing where
  | tgz
  | tar
  | zip
  deriving DecidableEq, Inhabited

namespace Packing

/-- The name of a packing. -/
def name : Packing → String
  | .tgz => "TGZ"
  | .tar => "TAR"
  | .zip => "ZIP"

/-- The packing that a JSON value names. -/
def ofJson? (j : Json.Source) : Option Packing :=
  (Json.caseName? j).bind fun s => [tgz, tar, zip].find? fun k => k.name == s

end Packing

/-- A layer on top of the root filesystem. The digest's algorithm and value are there together or
not at all. -/
structure ImageLayer where
  name : String
  url : String
  target : String
  sharing : Sharing
  packing : Packing := .tgz
  digestAlgorithm : Option String := none
  digestValue : Option String := none
  deriving DecidableEq, Inhabited

namespace ImageLayer

/-- The entries of a written layer. -/
def entries (l : ImageLayer) : List Document.Entry := [
  .always "name" (.text l.name),
  .always "url" (.text l.url),
  .always "destination_path" (.text l.target),
  .always "layer_type" (.text l.sharing.name),
  .always "media_type" (.text l.packing.name),
  .ifSome "digest_algorithm" .text l.digestAlgorithm,
  .ifSome "digest_value" .text l.digestValue]

/-- The layer as it is written. -/
def document (l : ImageLayer) : Document := .ofEntries l.entries

/-- The fields of a layer, in order. -/
def fieldNames : List String := [
  "name", "url", "destination_path", "layer_type", "media_type", "digest_algorithm",
  "digest_value"]

/-- The layer that a JSON value stands for. -/
def ofJson? (j : Json.Source) : Option ImageLayer := do
  let r ← Json.Record.of? fieldNames j
  return {
    name := ← r.required "name" Json.text?
    url := ← r.required "url" Json.text?
    target := ← r.required "destination_path" Json.text?
    sharing := ← r.required "layer_type" Sharing.ofJson?
    packing := ← r.required "media_type" Packing.ofJson?
    digestAlgorithm := ← r.optional "digest_algorithm" Json.text?
    digestValue := ← r.optional "digest_value" Json.text? }

end ImageLayer

/-- The user name and password for a registry. -/
structure ImageCredentials where
  username : String
  password : String
  deriving DecidableEq, Inhabited

namespace ImageCredentials

/-- The credentials as they are written. -/
def document (c : ImageCredentials) : Document :=
  .record [("username", .text c.username), ("password", .text c.password)]

/-- The credentials that a JSON value stands for. -/
def ofJson? (j : Json.Source) : Option ImageCredentials := do
  let r ← Json.Record.of? ["username", "password"] j
  return {
    username := ← r.required "username" Json.text?
    password := ← r.required "password" Json.text? }

end ImageCredentials

end CellRecipe
