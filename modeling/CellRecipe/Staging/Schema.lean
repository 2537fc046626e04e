import CellRecipe.Json.Value

/-!
# Schemas of staging messages

A schema names the fields of a message, the kind of value that each must hold and whether it must be
there. An optional field may be absent or `null`. Fields that the schema does not name are free.

## Main definitions

* `Schema.violations`: the fields of a message that break a schema, in the order of the schema.
* `Schema.buildpack`, `Schema.cnb`, `Schema.docker`: the schemas of the three lifecycles.
-/

namespace CellRecipe

/-- The kinds of values that a schema may ask for. -/
inductive FieldKind where
  | text
  | list
  | object
  | flag
  deriving DecidableEq, Inhabited

namespace FieldKind

/-- Is the value of the kind? -/
def admits : FieldKind → Json → Bool
  | .text, .string _ => true
  | .list, .array _ => true
  | .object, .object _ => true
  | .flag, .bool _ => true
  | _, _ => false

/-- The words for a kind. -/
def words : FieldKind → String
  | .text => "a string"
  | .list => "an array"
  | .object => "a hash"
  | .flag => "a boolean"

end FieldKind

/-- The words for what a value is. -/
def Json.kindWords : Json → String
  | .null => "null"
  | .bool _ => "a boolean"
  | .number _ => "a number"
  | .string _ => "a string"
  | .array _ => "an array"
  | .object _ => "a hash"

/-- A field that a schema names. -/
structure SchemaField where
  name : String
  kind : FieldKind
  required : Bool
  deriving DecidableEq, Inhabited

/-- The fields that a message must or may have. -/
abbrev Schema := List SchemaField

/-- A field that breaks a schema: what was expected and what was given. -/
structure Violation where
  field : String
  expected : String
  given : String
  deriving DecidableEq, Inhabited

/-- The words for a violation. -/
def Violation.message (v : Violation) : String :=
  v.field ++ " => expected " ++ v.expected ++ ", got " ++ v.given

namespace Schema

/-- The value of a field, `null` if the message has none. -/
def valueAt (message : Json.Members) (name : String) : Json :=
  (Json.member? message name).getD .null

/-- How a field breaks the schema, if it does. -/
def violation? (message : Json.Members) (f : SchemaField) : Option Violation :=
  match valueAt message f.name with
  | .null => if f.required then some ⟨f.name, f.kind.words, Json.null.kindWords⟩ else none
  | j => if f.kind.admits j then none else some ⟨f.name, f.kind.words, j.kindWords⟩

/-- All fields of a message that break the schema. -/
def violations (schema : Schema) (message : Json.Members) : List Violation :=
  schema.filterMap (violation? message)

/-- The words for a list of violations. -/
def violationsMessage (vs : List Violation) : String :=
  "\x7b " ++ String.intercalate ", " (vs.map Violation.message) ++ " \x7d"

/-- Is the field among the violations? -/
def isViolated (vs : List Violation) (field : String) : Bool := vs.any fun v => v.field == field

/-! ## The lifecycles' schemas -/

/-- A field that must be there. -/
def must (name : String) (kind : FieldKind) : SchemaField := ⟨name, kind, true⟩

/-- A field that may be there. -/
def may (name : String) (kind : FieldKind) : SchemaField := ⟨name, kind, false⟩

/-- What every message about buildpacks must have. -/
def common : Schema := [
  must "app_bits_download_uri" .text,
  must "build_artifacts_cache_upload_uri" .text,
  must "droplet_upload_uri" .text,
  must "buildpacks" .list,
  must "stack" .text,
  must "app_bits_checksum" .object]

/-- What every message about buildpacks may have. -/
def commonOptional : Schema := [
  may "build_artifacts_cache_download_uri" .text,
  may "buildpack_cache_checksum" .text]

/-- The schema for buildpacks. -/
def buildpack : Schema := common ++ commonOptional

/-- The schema for cloud native buildpacks. -/
def cnb : Schema :=
  common ++ must "auto_detect" .flag :: commonOptional ++ [may "credentials" .text]

/-- The schema for container images. -/
def docker : Schema := [
  must "docker_image" .text,
  may "docker_user" .text,
  may "docker_password" .text]

end Schema

end CellRecipe
