import CellRecipe.Refusal
import CellRecipe.Request.Staging

/-!
# Staging messages

What the builder of a buildpack lifecycle is told. A message is put together from whatever the
request has, with `null` for what is missing, held against a schema and only then read. A missing
package is reported as such, whatever else is missing: the location may resolve at another attempt.

## Main definitions

* `BuildpackEntry.requested`: the buildpacks that a message names.
* `StagingMessage.members`: a message before it is held against a schema.
* `StagingMessage.checked`: the message, or why there is none.
-/

namespace CellRecipe

/-- A buildpack as the builder is told of it. -/
structure BuildpackEntry where
  name : String
  key : String
  url : String
  skipDetect : Bool
  deriving DecidableEq, Inhabited

namespace BuildpackEntry

/-- The name of every buildpack at a location of its own. -/
def customName : String := "custom"

/-- Does the entry go by the name of buildpacks at a location of their own? -/
def isCustom (e : BuildpackEntry) : Bool := e.name == customName

/-- The entry of an installed buildpack. -/
def ofAdmin (skipDetect : Bool) (b : AdminBuildpack) : BuildpackEntry :=
  ⟨b.name, b.key, b.url, skipDetect⟩

/-- The entry of a buildpack that was asked for, which need not be detected. -/
def ofBuildpack : Buildpack → BuildpackEntry
  | .custom url => ⟨customName, url, url, true⟩
  | .admin b => ofAdmin true b

/-- The entries for what was asked for, or for the defaults if that is nothing. -/
def requested (asked : List Buildpack) (defaults : List AdminBuildpack) : List BuildpackEntry :=
  if asked.isEmpty then defaults.map (ofAdmin false) else asked.map ofBuildpack

/-- The entry as it is written. -/
def document (e : BuildpackEntry) : Document :=
  .record [
    ("name", .text e.name),
    ("key", .text e.key),
    ("url", .text e.url),
    ("skip_detect", .bool e.skipDetect)]

/-- The entry that a JSON value stands for. -/
def ofJson? (j : Json.Source) : Option BuildpackEntry := do
  let r ← Json.Record.of? ["name", "key", "url", "skip_detect"] j
  return {
    name := ← r.required "name" Json.text?
    key := ← r.required "key" Json.text?
    url := ← r.required "url" Json.text?
    skipDetect := ← r.withDefault "skip_detect" false Json.flag? }

end BuildpackEntry

/-- What the builder is told. -/
structure StagingMessage where
  packageDownload : String
  cacheUpload : String
  dropletUpload : String
  buildpacks : List BuildpackEntry
  stack : String
  packageChecksum : PackageChecksum
  cacheDownload : Option String
  cacheChecksum : Option String
  credentials : Option String
  autoDetect : Bool
  deriving DecidableEq, Inhabited

namespace StagingMessage

/-- The message as it is written. -/
def document (m : StagingMessage) : Document :=
  .record [
    ("app_bits_download_uri", .text m.packageDownload),
    ("build_artifacts_cache_upload_uri", .text m.cacheUpload),
    ("droplet_upload_uri", .text m.dropletUpload),
    ("buildpacks", .list (m.buildpacks.map BuildpackEntry.document)),
    ("stack", .text m.stack),
    ("app_bits_checksum", m.packageChecksum.document),
    ("build_artifacts_cache_download_uri", .orNull .text m.cacheDownload),
    ("buildpack_cache_checksum", .orNull .text m.cacheChecksum),
    ("credentials", .orNull .text m.credentials),
    ("auto_detect", .bool m.autoDetect)]

/-- The message that a JSON value stands for. -/
def ofJson? (j : Json.Source) : Option StagingMessage := do
  let r ← Json.Record.of?
    ["app_bits_download_uri", "build_artifacts_cache_upload_uri", "droplet_upload_uri",
      "buildpacks", "stack", "app_bits_checksum", "build_artifacts_cache_download_uri",
      "buildpack_cache_checksum", "credentials", "auto_detect"] j
  return {
    packageDownload := ← r.required "app_bits_download_uri" Json.text?
    cacheUpload := ← r.required "build_artifacts_cache_upload_uri" Json.text?
    dropletUpload := ← r.required "droplet_upload_uri" Json.text?
    buildpacks := ← r.required "buildpacks" (Json.list? BuildpackEntry.ofJson?)
    stack := ← r.required "stack" Json.text?
    packageChecksum := ← r.required "app_bits_checksum" PackageChecksum.ofJson?
    cacheDownload := ← r.optional "build_artifacts_cache_download_uri" Json.text?
    cacheChecksum := ← r.optional "buildpack_cache_checksum" Json.text?
    credentials := ← r.optional "credentials" Json.text?
    autoDetect := ← r.withDefault "auto_detect" false Json.flag? }

/-! ## From a request -/

/-- The checksum of the request's package, or one that is not known yet. -/
def checksumOf (request : StagingRequest) : PackageChecksum :=
  request.package.checksum.getD ⟨"sha256", none⟩

/-- The message for a stack and some buildpacks, with `null` for all that is missing. -/
def members (request : StagingRequest) (stack : String) (entries : List BuildpackEntry) :
    Json.Members :=
  let store := request.blobstore
  [("app_bits_download_uri", (Document.orNull .text store.packageDownload).toJson),
    ("build_artifacts_cache_upload_uri", (Document.orNull .text store.cacheUpload).toJson),
    ("droplet_upload_uri", (Document.orNull .text store.dropletUpload).toJson),
    ("buildpacks", (Document.list (entries.map BuildpackEntry.document)).toJson),
    ("stack", .string stack),
    ("app_bits_checksum", (checksumOf request).document.toJson),
    ("build_artifacts_cache_download_uri", (Document.orNull .text store.cacheDownload).toJson),
    ("buildpack_cache_checksum", (Document.orNull .text store.cacheChecksum).toJson)]

/-- The violation of a message that satisfies its schema and yet cannot be read. -/
def unreadable : Violation := ⟨"message", "a staging message", "an unreadable one"⟩

/-- The message, if it satisfies the schema. -/
def checked (schema : Schema) (request : StagingRequest) (ms : Json.Members) :
    Except Refusal StagingMessage :=
  match schema.violations ms with
  | [] =>
    match ofJson? (.ofJson (.object ms)) with
    | some m => .ok m
    | none => .error (.violations [unreadable])
  | found =>
    if request.blobstore.packageDownload.isNone then
      .error (.missingDownload .package request.package.guid)
    else .error (.violations found)

/-- The members of a message for buildpacks: those asked for, or the defaults. -/
def buildpackMembers (request : StagingRequest) (stack : String) (asked : List Buildpack) :
    Json.Members :=
  members request stack (BuildpackEntry.requested asked request.defaultBuildpacks)

/-- The message for buildpacks. -/
def forBuildpacks (request : StagingRequest) (stack : String) (asked : List Buildpack) :
    Except Refusal StagingMessage :=
  checked Schema.buildpack request (buildpackMembers request stack asked)

/-- The members that only a message for cloud native buildpacks has. -/
def cnbOnly (asked : List Buildpack) (credentials : Option String) : Json.Members :=
  [("auto_detect", .bool asked.isEmpty),
    ("credentials", (Document.orNull .text credentials).toJson)]

/-- The members of a message for cloud native buildpacks: those asked for, or detection if that is
nothing. -/
def cnbMembers (request : StagingRequest) (stack : String) (asked : List Buildpack)
    (credentials : Option String) : Json.Members :=
  members request stack (BuildpackEntry.requested asked []) ++ cnbOnly asked credentials

/-- The message for cloud native buildpacks. -/
def forCnb (request : StagingRequest) (stack : String) (asked : List Buildpack)
    (credentials : Option String) : Except Refusal StagingMessage :=
  checked Schema.cnb request (cnbMembers request stack asked credentials)

end StagingMessage

end CellRecipe
