import CellRecipe.Document
import CellRecipe.Json.Record
import CellRecipe.Table

/-!
# Settings of the platform

What an operator decides for all recipes: where results are reported, how long staging may take,
what containers may do, and which bundle serves each lifecycle. A setting that a document leaves out
keeps its default.

## Main definitions

* `Settings.standard`: the defaults.
* `Settings.timeoutMs`, `Settings.internalUrl`, `Settings.bundle?`: what recipes take from them.
* `Settings.summary`: the settings as text for a log.
-/

namespace CellRecipe

/-- The settings of the platform. -/
structure Settings where
  hostname : String
  tlsPort : UInt16
  timeoutSeconds : UInt64
  pidLimit : Int32
  privilegedStaging : Bool
  privilegedRunning : Bool
  /-- The bundles by the keys `buildpack/<stack>`, `cnb/<stack>` and `docker`. -/
  bundles : Table String
  fileServerUrl : String
  dockerStagingStack : String
  skipCertVerify : Bool
  insecureRegistries : List String
  declarativeAssets : Bool
  openFilesLimit : Option UInt64
  trustedCertificatesPath : String
  deriving DecidableEq

namespace Settings

/-- The settings of a platform that decides nothing. -/
def standard : Settings where
  hostname := "cloud-controller-ng.service.cf.internal"
  tlsPort := 9023
  timeoutSeconds := 900
  pidLimit := 1024
  privilegedStaging := false
  privilegedRunning := false
  bundles := .empty
  fileServerUrl := "http://file-server.service.cf.internal:8080"
  dockerStagingStack := "cflinuxfs4"
  skipCertVerify := false
  insecureRegistries := []
  declarativeAssets := false
  openFilesLimit := some 16384
  trustedCertificatesPath := "/etc/cf-system-certificates"

instance : Inhabited Settings := ⟨standard⟩

/-! ## What recipes take from them -/

/-- The time limit of staging in milliseconds, or the greatest word if it does not fit. -/
def timeoutMs (s : Settings) : UInt64 :=
  UInt64.ofNat (min (s.timeoutSeconds.toNat * 1000) (UInt64.size - 1))

/-- A location on the platform's own host. -/
def internalUrl (s : Settings) (path : String) : String :=
  "https://" ++ s.hostname ++ ":" ++ toString s.tlsPort.toNat ++ path

/-- The bundle of a key. -/
def bundle? (s : Settings) (key : String) : Option String := s.bundles.get? key

/-! ## Written forms -/

/-- A truth value as text. -/
def flagText (b : Bool) : String := if b then "true" else "false"

/-- The settings as lines of text. -/
def summary (s : Settings) : String :=
  String.join [
    "Recipe Configuration:\n",
    "  Callback: ", s.hostname, ":", toString s.tlsPort.toNat, "\n",
    "  Staging Timeout: ", toString s.timeoutSeconds.toNat, "s\n",
    "  Pid Limit: ", toString s.pidLimit.toInt, "\n",
    "  Privileged: staging=", flagText s.privilegedStaging,
    " running=", flagText s.privilegedRunning, "\n",
    "  Lifecycle Bundles: ", toString s.bundles.size, "\n",
    "  File Server: ", s.fileServerUrl, "\n"]

/-- The settings as they are written. -/
def document (s : Settings) : Document :=
  .record [
    ("internal_service_hostname", .text s.hostname),
    ("tls_port", .natural s.tlsPort.toNat),
    ("staging_timeout_secs", .natural s.timeoutSeconds.toNat),
    ("pid_limit", .integer s.pidLimit.toInt),
    ("use_privileged_containers_for_staging", .bool s.privilegedStaging),
    ("use_privileged_containers_for_running", .bool s.privilegedRunning),
    ("lifecycle_bundles", s.bundles.document .text),
    ("file_server_url", .text s.fileServerUrl),
    ("docker_staging_stack", .text s.dockerStagingStack),
    ("skip_cert_verify", .bool s.skipCertVerify),
    ("insecure_docker_registries", .texts s.insecureRegistries),
    ("enable_declarative_asset_downloads", .bool s.declarativeAssets),
    ("staging_nofile_limit", .orNull (fun n => .natural n.toNat) s.openFilesLimit),
    ("trusted_system_certificates_path", .text s.trustedCertificatesPath)]

/-- The fields of the settings, in order. -/
def fieldNames : List String := [
  "internal_service_hostname", "tls_port", "staging_timeout_secs", "pid_limit",
  "use_privileged_containers_for_staging", "use_privileged_containers_for_running",
  "lifecycle_bundles", "file_server_url", "docker_staging_stack", "skip_cert_verify",
  "insecure_docker_registries", "enable_declarative_asset_downloads", "staging_nofile_limit",
  "trusted_system_certificates_path"]

/-- The settings that a JSON value stands for. -/
def ofJson? (j : Json.Source) : Option Settings := do
  let r ← Json.Record.of? fieldNames j
  let d := standard
  return {
    hostname := ← r.withDefault "internal_service_hostname" d.hostname Json.text?
    tlsPort := ← r.withDefault "tls_port" d.tlsPort Json.word16?
    timeoutSeconds := ← r.withDefault "staging_timeout_secs" d.timeoutSeconds Json.word64?
    pidLimit := ← r.withDefault "pid_limit" d.pidLimit Json.int32?
    privilegedStaging :=
      ← r.withDefault "use_privileged_containers_for_staging" d.privilegedStaging Json.flag?
    privilegedRunning :=
      ← r.withDefault "use_privileged_containers_for_running" d.privilegedRunning Json.flag?
    bundles := ← r.withDefault "lifecycle_bundles" d.bundles (Table.ofJson? Json.text?)
    fileServerUrl := ← r.withDefault "file_server_url" d.fileServerUrl Json.text?
    dockerStagingStack := ← r.withDefault "docker_staging_stack" d.dockerStagingStack Json.text?
    skipCertVerify := ← r.withDefault "skip_cert_verify" d.skipCertVerify Json.flag?
    insecureRegistries :=
      ← r.withDefault "insecure_docker_registries" d.insecureRegistries (Json.list? Json.text?)
    declarativeAssets :=
      ← r.withDefault "enable_declarative_asset_downloads" d.declarativeAssets Json.flag?
    openFilesLimit :=
      ← r.withDefault "staging_nofile_limit" d.openFilesLimit (Json.orNull? Json.word64?)
    trustedCertificatesPath :=
      ← r.withDefault "trusted_system_certificates_path" d.trustedCertificatesPath Json.text? }

end Settings

end CellRecipe
