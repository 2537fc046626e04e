import CellRecipe.Action
import CellRecipe.Asset
import CellRecipe.Egress
import CellRecipe.MountedFile
import CellRecipe.Table
import CellRecipe.VolumeMount

/-!
# Recipes

Everything that the scheduler needs to know to stage or to run one workload: what the container
does, what it is made of, what it may use and reach, and by which names it goes.

A recipe is written with all its fields, but for those that are absent and for empty lists of ports.

## Main definitions

* `Recipe.document`, `Recipe.ofJson?`: the written form and back.
-/

namespace CellRecipe

/-- The checksum of what a container runs. -/
structure Checksum where
  algorithm : String
  value : String
  deriving DecidableEq, Inhabited

namespace Checksum

/-- The checksum as it is written. -/
def document (c : Checksum) : Document :=
  .record [("algorithm", .text c.algorithm), ("value", .text c.value)]

/-- The checksum that a JSON value stands for. -/
def ofJson? (j : Json.Source) : Option Checksum := do
  let r ← Json.Record.of? ["algorithm", "value"] j
  return {
    algorithm := ← r.required "algorithm" Json.text?
    value := ← r.required "value" Json.text? }

end Checksum

/-- A complete order to the scheduler. -/
structure Recipe where
  guid : String
  logGuid : String
  logSource : String
  metricsGuid : String
  rootFs : String
  memoryMb : UInt64
  diskMb : UInt64
  /-- The log rate limit; `-1` stands for no limit. -/
  logBytesPerSecond : Int64
  cpuWeight : UInt32
  maxPids : Int32
  privileged : Bool
  action : Action
  environment : List EnvironmentVariable
  cachedDependencies : List CachedDependency
  imageLayers : List ImageLayer
  egressRules : List EgressRule
  placementTags : List String
  organizationalUnit : List String
  checksum : Option Checksum
  network : Table String
  metricTags : Table String
  volumeMounts : List VolumeMount
  mountedFiles : List MountedFile
  callbackUrl : Option String
  trustedCertificatesPath : String
  resultFile : String
  downloadUser : String
  imageUsername : Option String
  imagePassword : Option String
  ports : List UInt32
  instances : Option UInt32
  deriving Inhabited

namespace Recipe

/-- The metric tag of a name. -/
def metricTag (r : Recipe) (name : String) : Option String := r.metricTags.get? name

/-! ## Written form -/

/-- The entries of a written recipe. -/
def entries (r : Recipe) : List Document.Entry := [
  .always "guid" (.text r.guid),
  .always "log_guid" (.text r.logGuid),
  .always "log_source" (.text r.logSource),
  .always "metrics_guid" (.text r.metricsGuid),
  .always "root_fs" (.text r.rootFs),
  .always "memory_mb" (.natural r.memoryMb.toNat),
  .always "disk_mb" (.natural r.diskMb.toNat),
  .always "log_rate_limit"
    (.field "bytes_per_second" (.integer r.logBytesPerSecond.toInt)),
  .always "cpu_weight" (.natural r.cpuWeight.toNat),
  .always "max_pids" (.integer r.maxPids.toInt),
  .always "privileged" (.bool r.privileged),
  .always "action" r.action.document,
  .always "environment_variables" (.list (r.environment.map EnvironmentVariable.document)),
  .always "cached_dependencies" (.list (r.cachedDependencies.map CachedDependency.document)),
  .always "image_layers" (.list (r.imageLayers.map ImageLayer.document)),
  .always "egress_rules" (.list (r.egressRules.map EgressRule.document)),
  .always "placement_tags" (.texts r.placementTags),
  .always "certificate_properties"
    (.field "organizational_unit" (.texts r.organizationalUnit)),
  .ifSome "checksum" Checksum.document r.checksum,
  .always "network" (.field "properties" (r.network.document .text)),
  .always "metric_tags" (r.metricTags.document fun tag => .field "static" (.text tag)),
  .always "volume_mounts" (.list (r.volumeMounts.map VolumeMount.document)),
  .always "volume_mounted_files" (.list (r.mountedFiles.map MountedFile.document)),
  .ifSome "completion_callback_url" .text r.callbackUrl,
  .always "trusted_system_certificates_path" (.text r.trustedCertificatesPath),
  .always "result_file" (.text r.resultFile),
  .always "legacy_download_user" (.text r.downloadUser),
  .ifSome "image_username" .text r.imageUsername,
  .ifSome "image_password" .text r.imagePassword,
  .ifAny "ports" (fun p => .natural p.toNat) r.ports,
  .ifSome "instances" (fun n => .natural n.toNat) r.instances]

/-- The recipe as it is written. -/
def document (r : Recipe) : Document := .ofEntries r.entries

/-- The fields of a recipe, in order. -/
def fieldNames : List String := [
  "guid", "log_guid", "log_source", "metrics_guid", "root_fs", "memory_mb", "disk_mb",
  "log_rate_limit", "cpu_weight", "max_pids", "privileged", "action", "environment_variables",
  "cached_dependencies", "image_layers", "egress_rules", "placement_tags",
  "certificate_properties", "checksum", "network", "metric_tags", "volume_mounts",
  "volume_mounted_files", "completion_callback_url", "trusted_system_certificates_path",
  "result_file", "legacy_download_user", "image_username", "image_password", "ports", "instances"]

/-- The recipe that a JSON value stands for. -/
def ofJson? (j : Json.Source) : Option Recipe := do
  let r ← Json.Record.of? fieldNames j
  return {
    guid := ← r.required "guid" Json.text?
    logGuid := ← r.required "log_guid" Json.text?
    logSource := ← r.required "log_source" Json.text?
    metricsGuid := ← r.required "metrics_guid" Json.text?
    rootFs := ← r.required "root_fs" Json.text?
    memoryMb := ← r.required "memory_mb" Json.word64?
    diskMb := ← r.required "disk_mb" Json.word64?
    logBytesPerSecond :=
      ← r.required "log_rate_limit" (Json.field? "bytes_per_second" Json.int64?)
    cpuWeight := ← r.required "cpu_weight" Json.word32?
    maxPids := ← r.required "max_pids" Json.int32?
    privileged := ← r.required "privileged" Json.flag?
    action := ← r.required "action" Action.ofJson?
    environment := ← r.required "environment_variables" (Json.list? EnvironmentVariable.ofJson?)
    cachedDependencies :=
      ← r.required "cached_dependencies" (Json.list? CachedDependency.ofJson?)
    imageLayers := ← r.required "image_layers" (Json.list? ImageLayer.ofJson?)
    egressRules := ← r.required "egress_rules" (Json.list? EgressRule.ofJson?)
    placementTags := ← r.required "placement_tags" (Json.list? Json.text?)
    organizationalUnit :=
      ← r.required "certificate_properties"
        (Json.field? "organizational_unit" (Json.list? Json.text?))
    checksum := ← r.optional "checksum" Checksum.ofJson?
    network := ← r.required "network" (Json.field? "properties" (Table.ofJson? Json.text?))
    metricTags := ← r.required "metric_tags" (Table.ofJson? (Json.field? "static" Json.text?))
    volumeMounts := ← r.required "volume_mounts" (Json.list? VolumeMount.ofJson?)
    mountedFiles := ← r.required "volume_mounted_files" (Json.list? MountedFile.ofJson?)
    callbackUrl := ← r.optional "completion_callback_url" Json.text?
    trustedCertificatesPath := ← r.required "trusted_system_certificates_path" Json.text?
    resultFile := ← r.required "result_file" Json.text?
    downloadUser := ← r.required "legacy_download_user" Json.text?
    imageUsername := ← r.optional "image_username" Json.text?
    imagePassword := ← r.optional "image_password" Json.text?
    ports := ← r.withDefault "ports" [] (Json.list? Json.word32?)
    instances := ← r.optional "instances" Json.word32? }

end Recipe

end CellRecipe
