import CellRecipe.Settings
import CellRecipe.Yaml.Node.Composition
import CellRecipe.Yaml.Record

/-!
# Settings from YAML

The settings that a text in YAML gives. Whatever it leaves out keeps its default, so a text without
a document gives the defaults.

## Main definitions

* `Settings.ofYaml?`: the settings of a text.
-/

namespace CellRecipe.Settings

/-- The settings that a content stands for. -/
def ofContent? (c : Yaml.Content) : Option Settings := do
  let r ← Yaml.Record.of? fieldNames c
  let d := standard
  let word64? := fun (n : Yaml.Node) => (n.unsigned? (UInt64.size - 1)).map UInt64.ofNat
  return {
    hostname := ← r.withDefault "internal_service_hostname" d.hostname Yaml.Node.text?
    tlsPort := ← r.withDefault "tls_port" d.tlsPort
      fun n => (n.unsigned? (UInt16.size - 1)).map UInt16.ofNat
    timeoutSeconds := ← r.withDefault "staging_timeout_secs" d.timeoutSeconds word64?
    pidLimit := ← r.withDefault "pid_limit" d.pidLimit
      fun n => (n.signed? Int32.minValue.toInt Int32.maxValue.toInt).map Int32.ofInt
    privilegedStaging :=
      ← r.withDefault "use_privileged_containers_for_staging" d.privilegedStaging
        Yaml.Node.flag?
    privilegedRunning :=
      ← r.withDefault "use_privileged_containers_for_running" d.privilegedRunning
        Yaml.Node.flag?
    bundles := ← r.withDefault "lifecycle_bundles" d.bundles
      fun n => (n.members? r.anchors Yaml.Node.text?).map Table.ofList
    fileServerUrl := ← r.withDefault "file_server_url" d.fileServerUrl Yaml.Node.text?
    dockerStagingStack :=
      ← r.withDefault "docker_staging_stack" d.dockerStagingStack Yaml.Node.text?
    skipCertVerify := ← r.withDefault "skip_cert_verify" d.skipCertVerify Yaml.Node.flag?
    insecureRegistries :=
      ← r.withDefault "insecure_docker_registries" d.insecureRegistries
        (Yaml.Node.list? r.anchors Yaml.Node.text?)
    declarativeAssets :=
      ← r.withDefault "enable_declarative_asset_downloads" d.declarativeAssets Yaml.Node.flag?
    openFilesLimit := ← r.withDefault "staging_nofile_limit" d.openFilesLimit
      (Yaml.Node.orNull? word64?)
    trustedCertificatesPath :=
      ← r.withDefault "trusted_system_certificates_path" d.trustedCertificatesPath
        Yaml.Node.text? }

/-- The settings that a text gives. -/
def ofYaml? (s : String) : Option Settings := do
  match ← Yaml.Content.ofText? s with
  | none => return standard
  | some c => ofContent? c

end CellRecipe.Settings
