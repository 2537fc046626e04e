import CellRecipe.Action
import CellRecipe.Lifecycle
import CellRecipe.SecurityGroup
import CellRecipe.Workload

/-!
# Staging requests

Everything that is known when a package is to be staged. Locations are resolved before: one that is
missing could not be resolved.
-/

namespace CellRecipe

/-- The checksum of a package, with the value missing while it is not known. -/
structure PackageChecksum where
  algorithm : String
  value : Option String
  deriving DecidableEq, Inhabited

namespace PackageChecksum

/-- The checksum as it is written. -/
def document (c : PackageChecksum) : Document :=
  .record [("type", .text c.algorithm), ("value", .orNull .text c.value)]

/-- The checksum that a JSON value stands for. -/
def ofJson? (j : Json.Source) : Option PackageChecksum := do
  let r ← Json.Record.of? ["type", "value"] j
  return {
    algorithm := ← r.required "type" Json.text?
    value := ← r.optional "value" Json.text? }

end PackageChecksum

/-- The package to be staged. -/
structure Package where
  guid : String
  checksum : Option PackageChecksum
  deriving DecidableEq, Inhabited

namespace Package

/-- The package as it is written. -/
def document (p : Package) : Document :=
  .record [("guid", .text p.guid), ("checksum", .orNull PackageChecksum.document p.checksum)]

/-- The package that a JSON value stands for. -/
def ofJson? (j : Json.Source) : Option Package := do
  let r ← Json.Record.of? ["guid", "checksum"] j
  return {
    guid := ← r.required "guid" Json.text?
    checksum := ← r.optional "checksum" PackageChecksum.ofJson? }

end Package

/-- Where staging fetches its inputs and hands in its results. -/
structure Blobstore where
  packageDownload : Option String
  dropletUpload : Option String
  cacheDownload : Option String
  cacheUpload : Option String
  cacheChecksum : Option String
  deriving DecidableEq, Inhabited

namespace Blobstore

/-- No location at all. -/
def none : Blobstore := ⟨.none, .none, .none, .none, .none⟩

/-- The locations as they are written. -/
def document (b : Blobstore) : Document :=
  .record [
    ("package_download_url", .orNull .text b.packageDownload),
    ("droplet_upload_url", .orNull .text b.dropletUpload),
    ("buildpack_cache_download_url", .orNull .text b.cacheDownload),
    ("buildpack_cache_upload_url", .orNull .text b.cacheUpload),
    ("buildpack_cache_checksum", .orNull .text b.cacheChecksum)]

/-- The locations that a JSON value stands for. -/
def ofJson? (j : Json.Source) : Option Blobstore := do
  let r ← Json.Record.of?
    ["package_download_url", "droplet_upload_url", "buildpack_cache_download_url",
      "buildpack_cache_upload_url", "buildpack_cache_checksum"] j
  return {
    packageDownload := ← r.optional "package_download_url" Json.text?
    dropletUpload := ← r.optional "droplet_upload_url" Json.text?
    cacheDownload := ← r.optional "buildpack_cache_download_url" Json.text?
    cacheUpload := ← r.optional "buildpack_cache_upload_url" Json.text?
    cacheChecksum := ← r.optional "buildpack_cache_checksum" Json.text? }

end Blobstore

/-- A request to stage a package. -/
structure StagingRequest where
  guid : String
  package : Package
  lifecycle : Lifecycle
  memoryMb : UInt64
  diskMb : UInt64
  logBytesPerSecond : Int64
  environment : List EnvironmentVariable
  isolationSegment : Option String
  startAfterStaging : Bool
  workload : Workload
  blobstore : Blobstore
  /-- The installed buildpacks, offered when the request asks for none. -/
  defaultBuildpacks : List AdminBuildpack
  securityGroups : SecurityGroups
  deriving Inhabited

namespace StagingRequest

/-- The request as it is written. -/
def document (r : StagingRequest) : Document :=
  .record [
    ("staging_guid", .text r.guid),
    ("package", r.package.document),
    ("lifecycle", r.lifecycle.document),
    ("memory_mb", .natural r.memoryMb.toNat),
    ("disk_mb", .natural r.diskMb.toNat),
    ("log_rate_limit_bytes_per_second", .integer r.logBytesPerSecond.toInt),
    ("environment_variables", .list (r.environment.map EnvironmentVariable.document)),
    ("isolation_segment", .orNull .text r.isolationSegment),
    ("start_after_staging", .bool r.startAfterStaging),
    ("workload", r.workload.document),
    ("blobstore", r.blobstore.document),
    ("default_buildpacks", .list (r.defaultBuildpacks.map AdminBuildpack.document)),
    ("security_groups", r.securityGroups.document)]

/-- The fields of a request, in order. -/
def fieldNames : List String := [
  "staging_guid", "package", "lifecycle", "memory_mb", "disk_mb",
  "log_rate_limit_bytes_per_second", "environment_variables", "isolation_segment",
  "start_after_staging", "workload", "blobstore", "default_buildpacks", "security_groups"]

/-- The request that a JSON value stands for. -/
def ofJson? (j : Json.Source) : Option StagingRequest := do
  let r ← Json.Record.of? fieldNames j
  return {
    guid := ← r.required "staging_guid" Json.text?
    package := ← r.required "package" Package.ofJson?
    lifecycle := ← r.required "lifecycle" Lifecycle.ofJson?
    memoryMb := ← r.required "memory_mb" Json.word64?
    diskMb := ← r.required "disk_mb" Json.word64?
    logBytesPerSecond := ← r.required "log_rate_limit_bytes_per_second" Json.int64?
    environment :=
      ← r.withDefault "environment_variables" [] (Json.list? EnvironmentVariable.ofJson?)
    isolationSegment := ← r.optional "isolation_segment" Json.text?
    startAfterStaging := ← r.withDefault "start_after_staging" false Json.flag?
    workload := ← r.required "workload" Workload.ofJson?
    blobstore := ← r.withDefault "blobstore" .none Blobstore.ofJson?
    defaultBuildpacks :=
      ← r.withDefault "default_buildpacks" [] (Json.list? AdminBuildpack.ofJson?)
    securityGroups := ← r.withDefault "security_groups" .none SecurityGroups.ofJson? }

end StagingRequest

end CellRecipe
