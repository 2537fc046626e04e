import CellRecipe.Proofs.Abridged
import CellRecipe.Proofs.ActionRoundTrip
import CellRecipe.Request.Running
import CellRecipe.Request.Staging

/-!
# Requests are read back, also abridged

A request is written with all its fields, but whoever sends one may leave out what has a default.
Each type that has such fields names them together with their defaults (`spare`), and the members of
a whole request that may be gone are collected from those of its parts.

## Main definitions

* `StagingRequest.spare`, `RunRequest.spare`: the members that a request may do without.

## Main results

* `StagingRequest.readsAbridged`, `RunRequest.readsAbridged`: requests are read back, whichever of
  these members are gone.
* `Request.read_back_abridged`: the two together, with the whole requests among the abridged ones.
-/

namespace CellRecipe

open Json

/-! ## Service bindings -/

theorem Operation.reads : Reads Operation.ofJson? fun o => .text o.name := by
  intro o
  cases o <;> rfl

theorem Progress.reads : Reads Progress.ofJson? fun p => .text p.name := by
  intro p
  cases p <;> rfl

theorem LastOperation.reads : Reads LastOperation.ofJson? LastOperation.document := by
  intro o
  refine read_then (of?_ofJson_of_keys rfl (by decide)) ?_
  refine read_then (required_eq Operation.reads rfl) ?_
  refine read_then (required_eq Progress.reads rfl) ?_
  rfl

namespace ServiceInstance

/-- The spare members of an instance. -/
def spare (i : ServiceInstance) : Spare := .members [
  .optional "plan" i.plan fun _ => .nowhere,
  .withDefault "tags" i.tags [] .nowhere]

theorem readsAbridged : ReadsAbridged ServiceInstance.ofJson? ServiceInstance.document spare := by
  intro i gone hgone
  refine read_then (record_without rfl (by decide)) ?_
  refine read_then (required_of_kept hgone reads_text rfl rfl) ?_
  refine read_then (required_of_kept hgone reads_text rfl rfl) ?_
  refine read_then (required_of_kept hgone reads_text rfl rfl) ?_
  refine read_then (optional_abridged hgone abridged_orNull_text rfl rfl) ?_
  refine read_then (withDefault_abridged hgone (reads_list reads_text).abridged rfl rfl) ?_
  rfl

end ServiceInstance

namespace VolumeDevice

/-- The spare members of a device. -/
def spare (d : VolumeDevice) : Spare := .members [
  .optional "mount_config" d.mountConfig fun _ => .nowhere]

theorem readsAbridged : ReadsAbridged VolumeDevice.ofJson? VolumeDevice.document spare := by
  intro d gone hgone
  have hconfig := reads_fields.abridged.orNull fun f => by
    rw [Document.toJson_ofJson]
    exact Json.noConfusion
  refine read_then (record_without rfl (by decide)) ?_
  refine read_then (required_of_kept hgone reads_text rfl rfl) ?_
  refine read_then (optional_abridged hgone hconfig rfl rfl) ?_
  rfl

end VolumeDevice

namespace Volume

/-- The spare members of a volume. -/
def spare (v : Volume) : Spare := .members [.required "device" v.device.spare]

theorem readsAbridged : ReadsAbridged Volume.ofJson? Volume.document spare := by
  intro v gone hgone
  refine read_then (record_without rfl (by decide)) ?_
  refine read_then (required_of_kept hgone reads_text rfl rfl) ?_
  refine read_then (required_of_kept hgone reads_text rfl rfl) ?_
  refine read_then (required_of_kept hgone reads_text rfl rfl) ?_
  refine read_then (required_of_kept hgone reads_text rfl rfl) ?_
  refine read_then (required_abridged hgone VolumeDevice.readsAbridged rfl rfl) ?_
  rfl

end Volume

namespace ServiceBinding

/-- The spare members of a binding. -/
def spare (b : ServiceBinding) : Spare := .members [
  .optional "name" b.name fun _ => .nowhere,
  .required "service_instance" b.serviceInstance.spare,
  .withDefault "credentials" b.credentials .empty .nowhere,
  .optional "syslog_drain_url" b.syslogDrainUrl fun _ => .nowhere,
  .withDefault "volume_mounts" b.volumes [] (.items Volume.spare b.volumes),
  .optional "last_operation" b.lastOperation fun _ => .nowhere]

theorem readsAbridged : ReadsAbridged ServiceBinding.ofJson? ServiceBinding.document spare := by
  intro b gone hgone
  have hoperation := LastOperation.reads.abridged.orNull fun o => by
    simp [LastOperation.document, Document.toJson]
  refine read_then (record_without rfl (by decide)) ?_
  refine read_then (required_of_kept hgone reads_text rfl rfl) ?_
  refine read_then (optional_abridged hgone abridged_orNull_text rfl rfl) ?_
  refine read_then (required_abridged hgone ServiceInstance.readsAbridged rfl rfl) ?_
  refine read_then (withDefault_abridged hgone reads_fields.abridged rfl rfl) ?_
  refine read_then (optional_abridged hgone abridged_orNull_text rfl rfl) ?_
  refine read_then (withDefault_abridged hgone Volume.readsAbridged.list rfl rfl) ?_
  refine read_then (optional_abridged hgone hoperation rfl rfl) ?_
  rfl

end ServiceBinding

/-! ## Workloads -/

theorem Place.reads : Reads Place.ofJson? Place.document := by
  intro p
  refine read_then (of?_ofJson_of_keys rfl (by decide)) ?_
  refine read_then (required_eq reads_text rfl) ?_
  refine read_then (required_eq reads_text rfl) ?_
  rfl

namespace Features

/-- The spare members of features. -/
def spare (f : Features) : Spare := .members [
  .withDefault "service_binding_k8s_enabled" f.bindingDirectories false .nowhere,
  .withDefault "file_based_vcap_services_enabled" f.bindingsFile false .nowhere]

theorem readsAbridged : ReadsAbridged Features.ofJson? Features.document spare := by
  intro f gone hgone
  refine read_then (record_without rfl (by decide)) ?_
  refine read_then (withDefault_abridged hgone reads_flag.abridged rfl rfl) ?_
  refine read_then (withDefault_abridged hgone reads_flag.abridged rfl rfl) ?_
  rfl

end Features

namespace Workload

/-- The spare members of a workload. -/
def spare (w : Workload) : Spare := .members [
  .withDefault "service_bindings" w.bindings [] (.items ServiceBinding.spare w.bindings),
  .withDefault "features" w.features .none w.features.spare,
  .withDefault "revisions_enabled" w.revisionsEnabled false .nowhere]

theorem readsAbridged : ReadsAbridged Workload.ofJson? Workload.document spare := by
  intro w gone hgone
  refine read_then (record_without rfl (by decide)) ?_
  refine read_then (required_of_kept hgone reads_text rfl rfl) ?_
  refine read_then (required_of_kept hgone reads_text rfl rfl) ?_
  refine read_then (required_of_kept hgone Place.reads rfl rfl) ?_
  refine read_then (required_of_kept hgone Place.reads rfl rfl) ?_
  refine read_then (withDefault_abridged hgone ServiceBinding.readsAbridged.list rfl rfl) ?_
  refine read_then (withDefault_abridged hgone Features.readsAbridged rfl rfl) ?_
  refine read_then (withDefault_abridged hgone reads_flag.abridged rfl rfl) ?_
  rfl

end Workload

/-! ## Lifecycles -/

theorem AdminBuildpack.reads : Reads AdminBuildpack.ofJson? AdminBuildpack.document := by
  intro b
  refine read_then (of?_ofJson_of_keys rfl (by decide)) ?_
  refine read_then (required_eq reads_text rfl) ?_
  refine read_then (required_eq reads_text rfl) ?_
  refine read_then (required_eq reads_text rfl) ?_
  rfl

theorem Buildpack.reads : Reads Buildpack.ofJson? Buildpack.document := by
  intro b
  cases b with
  | custom url =>
      have hkeys : "kind" ∉ keys (Document.membersToJson [("url", .text url)]) := by
        show "kind" ∉ ["url"]
        decide
      refine read_then (splitCase?_ofJson hkeys) ?_
      refine read_then (reads_field reads_text url) ?_
      rfl
  | admin b =>
      have hkeys : "kind" ∉ keys (Document.membersToJson b.members) := by
        show "kind" ∉ ["name", "key", "url"]
        decide
      refine read_then (splitCase?_ofJson hkeys) ?_
      refine read_then (AdminBuildpack.reads b) ?_
      rfl

theorem ImageCredentials.reads : Reads ImageCredentials.ofJson? ImageCredentials.document := by
  intro c
  refine read_then (of?_ofJson_of_keys rfl (by decide)) ?_
  refine read_then (required_eq reads_text rfl) ?_
  refine read_then (required_eq reads_text rfl) ?_
  rfl

theorem ImageCredentials.abridged_orNull :
    ReadsAbridged (orNull? ImageCredentials.ofJson?) (Document.orNull ImageCredentials.document)
      (Spare.found fun _ => .nowhere) :=
  ImageCredentials.reads.abridged.orNull fun c => by
    simp [ImageCredentials.document, Document.toJson]

theorem LifecycleKind.reads : Reads LifecycleKind.ofJson? fun k => .text k.name := by
  intro k
  cases k <;> rfl

namespace Lifecycle

/-- The spare members of what a request says about a lifecycle. -/
def spareData : Lifecycle → Spare
  | .buildpack _ buildpacks => .members [.withDefault "buildpacks" buildpacks [] .nowhere]
  | .docker image credentials => .members [
      .optional "image" image fun _ => .nowhere,
      .optional "credentials" credentials fun _ => .nowhere]
  | .cnb _ buildpacks credentials => .members [
      .withDefault "buildpacks" buildpacks [] .nowhere,
      .optional "credentials" credentials fun _ => .nowhere]

/-- The spare members of a lifecycle. -/
def spare (l : Lifecycle) : Spare := .members [.required "data" l.spareData]

/-- The data are read by the kind of the lifecycle. -/
theorem ofData?_data (l : Lifecycle) {gone : Json.Path → Bool}
    (hgone : OnlySpare gone l.spareData) :
    ofData? l.kind (.ofJson (l.data.toJson.without gone)) = some l := by
  cases l with
  | buildpack stack buildpacks =>
      refine read_then (record_without rfl (by decide)) ?_
      refine read_then (required_of_kept hgone reads_text rfl rfl) ?_
      refine read_then (withDefault_abridged hgone (reads_list Buildpack.reads).abridged rfl rfl) ?_
      rfl
  | docker image credentials =>
      refine read_then (record_without rfl (by decide)) ?_
      refine read_then (optional_abridged hgone abridged_orNull_text rfl rfl) ?_
      refine read_then (optional_abridged hgone ImageCredentials.abridged_orNull rfl rfl) ?_
      rfl
  | cnb stack buildpacks credentials =>
      refine read_then (record_without rfl (by decide)) ?_
      refine read_then (required_of_kept hgone reads_text rfl rfl) ?_
      refine read_then (withDefault_abridged hgone (reads_list Buildpack.reads).abridged rfl rfl) ?_
      refine read_then (optional_abridged hgone abridged_orNull_text rfl rfl) ?_
      rfl

theorem readsAbridged : ReadsAbridged Lifecycle.ofJson? Lifecycle.document spare := by
  intro l gone hgone
  let ms : Members := [("type", .string l.kind.name), ("data", l.data.toJson)]
  have hdata : ∃ inner, OnlySpare inner l.spareData ∧
      member? (membersWithout gone ms) "data" = some (l.data.toJson.without inner) :=
    member?_of_required hgone rfl rfl
  obtain ⟨inner, hinner, hdata⟩ := hdata
  -- Data that have to wait for the type are passed on as they are, like those that need not.
  have hread : (Record.ofObject (membersWithout gone ms)).required "data"
      (if (Record.ofObject (membersWithout gone ms)).precedes "data" "type" then Source.whole?
        else some) = some (.ofJson (l.data.toJson.without inner)) := by
    rw [Record.required, Record.ofObject, lookup_ofMembers, hdata]
    split
    · exact Source.whole?_ofJson _
    · rfl
  refine read_then (record_without rfl (by decide)) ?_
  refine read_then (required_of_kept hgone LifecycleKind.reads rfl rfl) ?_
  refine read_then hread ?_
  exact l.ofData?_data hinner

end Lifecycle

/-! ## Security groups -/

namespace SecurityGroup

/-- The spare members of a rule. -/
def Rule.spare (r : Rule) : Spare := .members [
  .optional "ports" r.ports fun _ => .nowhere,
  .optional "type" r.icmpType fun _ => .nowhere,
  .optional "code" r.icmpCode fun _ => .nowhere,
  .withDefault "log" r.log false .nowhere,
  .optional "description" r.description fun _ => .nowhere]

theorem Rule.readsAbridged : ReadsAbridged Rule.ofJson? Rule.document Rule.spare := by
  intro r gone hgone
  have hnumber := reads_int32.abridged.orNull fun n => by simp [Document.integer, Document.toJson]
  refine read_then (record_without rfl (by decide)) ?_
  refine read_then (required_of_kept hgone reads_text rfl rfl) ?_
  refine read_then (required_of_kept hgone reads_text rfl rfl) ?_
  refine read_then (optional_abridged hgone abridged_orNull_text rfl rfl) ?_
  refine read_then (optional_abridged hgone hnumber rfl rfl) ?_
  refine read_then (optional_abridged hgone hnumber rfl rfl) ?_
  refine read_then (withDefault_abridged hgone reads_flag.abridged rfl rfl) ?_
  refine read_then (optional_abridged hgone abridged_orNull_text rfl rfl) ?_
  rfl

/-- The spare members of a group. -/
def spare (g : SecurityGroup) : Spare := .members [
  .withDefault "name" g.name "" .nowhere,
  .withDefault "rules" g.rules [] (.items Rule.spare g.rules)]

theorem readsAbridged : ReadsAbridged SecurityGroup.ofJson? SecurityGroup.document spare := by
  intro g gone hgone
  refine read_then (record_without rfl (by decide)) ?_
  refine read_then (required_of_kept hgone reads_text rfl rfl) ?_
  refine read_then (withDefault_abridged hgone reads_text.abridged rfl rfl) ?_
  refine read_then (withDefault_abridged hgone Rule.readsAbridged.list rfl rfl) ?_
  rfl

end SecurityGroup

namespace SecurityGroups

/-- The spare members of the groups of a request. -/
def spare (g : SecurityGroups) : Spare := .members [
  .withDefault "defaults" g.defaults [] (.items SecurityGroup.spare g.defaults),
  .withDefault "space" g.space [] (.items SecurityGroup.spare g.space)]

theorem readsAbridged : ReadsAbridged SecurityGroups.ofJson? SecurityGroups.document spare := by
  intro g gone hgone
  refine read_then (record_without rfl (by decide)) ?_
  refine read_then (withDefault_abridged hgone SecurityGroup.readsAbridged.list rfl rfl) ?_
  refine read_then (withDefault_abridged hgone SecurityGroup.readsAbridged.list rfl rfl) ?_
  rfl

end SecurityGroups

/-! ## Staging requests -/

namespace PackageChecksum

/-- The spare members of the checksum of a package. -/
def spare (c : PackageChecksum) : Spare := .members [
  .optional "value" c.value fun _ => .nowhere]

theorem readsAbridged : ReadsAbridged PackageChecksum.ofJson? PackageChecksum.document spare := by
  intro c gone hgone
  refine read_then (record_without rfl (by decide)) ?_
  refine read_then (required_of_kept hgone reads_text rfl rfl) ?_
  refine read_then (optional_abridged hgone abridged_orNull_text rfl rfl) ?_
  rfl

end PackageChecksum

namespace Package

/-- The spare members of a package. -/
def spare (p : Package) : Spare := .members [
  .optional "checksum" p.checksum PackageChecksum.spare]

theorem readsAbridged : ReadsAbridged Package.ofJson? Package.document spare := by
  intro p gone hgone
  have hchecksum := PackageChecksum.readsAbridged.orNull fun c => by
    simp [PackageChecksum.document, Document.toJson]
  refine read_then (record_without rfl (by decide)) ?_
  refine read_then (required_of_kept hgone reads_text rfl rfl) ?_
  refine read_then (optional_abridged hgone hchecksum rfl rfl) ?_
  rfl

end Package

namespace Blobstore

/-- The spare members of the locations for staging. -/
def spare (b : Blobstore) : Spare := .members [
  .optional "package_download_url" b.packageDownload fun _ => .nowhere,
  .optional "droplet_upload_url" b.dropletUpload fun _ => .nowhere,
  .optional "buildpack_cache_download_url" b.cacheDownload fun _ => .nowhere,
  .optional "buildpack_cache_upload_url" b.cacheUpload fun _ => .nowhere,
  .optional "buildpack_cache_checksum" b.cacheChecksum fun _ => .nowhere]

theorem readsAbridged : ReadsAbridged Blobstore.ofJson? Blobstore.document spare := by
  intro b gone hgone
  refine read_then (record_without rfl (by decide)) ?_
  refine read_then (optional_abridged hgone abridged_orNull_text rfl rfl) ?_
  refine read_then (optional_abridged hgone abridged_orNull_text rfl rfl) ?_
  refine read_then (optional_abridged hgone abridged_orNull_text rfl rfl) ?_
  refine read_then (optional_abridged hgone abridged_orNull_text rfl rfl) ?_
  refine read_then (optional_abridged hgone abridged_orNull_text rfl rfl) ?_
  rfl

end Blobstore

namespace StagingRequest

/-- The spare members of a staging request. -/
def spare (r : StagingRequest) : Spare := .members [
  .required "package" r.package.spare,
  .required "lifecycle" r.lifecycle.spare,
  .withDefault "environment_variables" r.environment [] .nowhere,
  .optional "isolation_segment" r.isolationSegment fun _ => .nowhere,
  .withDefault "start_after_staging" r.startAfterStaging false .nowhere,
  .required "workload" r.workload.spare,
  .withDefault "blobstore" r.blobstore .none r.blobstore.spare,
  .withDefault "default_buildpacks" r.defaultBuildpacks [] .nowhere,
  .withDefault "security_groups" r.securityGroups .none r.securityGroups.spare]

theorem readsAbridged : ReadsAbridged StagingRequest.ofJson? StagingRequest.document spare := by
  intro r gone hgone
  have hvariables := (reads_list EnvironmentVariable.reads).abridged
  have hbuildpacks := (reads_list AdminBuildpack.reads).abridged
  refine read_then (record_without rfl (by decide)) ?_
  refine read_then (required_of_kept hgone reads_text rfl rfl) ?_
  refine read_then (required_abridged hgone Package.readsAbridged rfl rfl) ?_
  refine read_then (required_abridged hgone Lifecycle.readsAbridged rfl rfl) ?_
  refine read_then (required_of_kept hgone reads_word64 rfl rfl) ?_
  refine read_then (required_of_kept hgone reads_word64 rfl rfl) ?_
  refine read_then (required_of_kept hgone reads_int64 rfl rfl) ?_
  refine read_then (withDefault_abridged hgone hvariables rfl rfl) ?_
  refine read_then (optional_abridged hgone abridged_orNull_text rfl rfl) ?_
  refine read_then (withDefault_abridged hgone reads_flag.abridged rfl rfl) ?_
  refine read_then (required_abridged hgone Workload.readsAbridged rfl rfl) ?_
  refine read_then (withDefault_abridged hgone Blobstore.readsAbridged rfl rfl) ?_
  refine read_then (withDefault_abridged hgone hbuildpacks rfl rfl) ?_
  refine read_then (withDefault_abridged hgone SecurityGroups.readsAbridged rfl rfl) ?_
  rfl

end StagingRequest

/-! ## Run requests -/

namespace Droplet

/-- The spare members of a droplet. -/
def spare (d : Droplet) : Spare := .members [
  .optional "sha256_checksum" d.sha256 fun _ => .nowhere,
  .withDefault "process_types" d.processTypes .empty .nowhere,
  .optional "download_url" d.downloadUrl fun _ => .nowhere,
  .withDefault "execution_metadata" d.executionMetadata "" .nowhere,
  .optional "docker_receipt_image" d.receiptImage fun _ => .nowhere,
  .optional "docker_receipt_credentials" d.receiptCredentials fun _ => .nowhere]

theorem readsAbridged : ReadsAbridged Droplet.ofJson? Droplet.document spare := by
  intro d gone hgone
  refine read_then (record_without rfl (by decide)) ?_
  refine read_then (required_of_kept hgone reads_text rfl rfl) ?_
  refine read_then (optional_abridged hgone abridged_orNull_text rfl rfl) ?_
  refine read_then (withDefault_abridged hgone (reads_table reads_text).abridged rfl rfl) ?_
  refine read_then (optional_abridged hgone abridged_orNull_text rfl rfl) ?_
  refine read_then (withDefault_abridged hgone reads_text.abridged rfl rfl) ?_
  refine read_then (optional_abridged hgone abridged_orNull_text rfl rfl) ?_
  refine read_then (optional_abridged hgone ImageCredentials.abridged_orNull rfl rfl) ?_
  rfl

end Droplet

namespace Revision

/-- The spare members of a revision. -/
def spare (v : Revision) : Spare := .members [
  .required "droplet" v.droplet.spare,
  .withDefault "commands" v.commands .empty .nowhere]

theorem readsAbridged : ReadsAbridged Revision.ofJson? Revision.document spare := by
  intro v gone hgone
  refine read_then (record_without rfl (by decide)) ?_
  refine read_then (required_of_kept hgone reads_text rfl rfl) ?_
  refine read_then (required_abridged hgone Droplet.readsAbridged rfl rfl) ?_
  refine read_then (withDefault_abridged hgone (reads_table reads_text).abridged rfl rfl) ?_
  rfl

end Revision

namespace RunUnit

/-- The spare members of a unit. -/
def spare : RunUnit → Spare
  | .task _ => .nowhere
  | .process ports instances => .members [
      .withDefault "ports" ports [] .nowhere,
      .withDefault "instances" instances 1 .nowhere]

theorem readsAbridged : ReadsAbridged RunUnit.ofJson? RunUnit.document spare := by
  intro u gone hgone
  cases u with
  | task name =>
      have hnone : ∀ p, gone p = false := fun p => Bool.eq_false_iff.2 (hgone p)
      have hkeys : "kind" ∉ keys (Document.membersToJson [("name", .text name)]) := by
        show "kind" ∉ ["name"]
        decide
      rw [without_of_none hnone]
      refine read_then (splitCase?_ofJson hkeys) ?_
      refine read_then (reads_field reads_text name) ?_
      rfl
  | process ports instances =>
      have hkeys : "kind" ∉ keys (Document.membersToJson [
          ("ports", .list (ports.map fun p => .natural p.toNat)),
          ("instances", .natural instances.toNat)]) := by
        show "kind" ∉ ["ports", "instances"]
        decide
      have hports := (reads_list reads_word32).abridged
      refine read_then (splitCase?_without hkeys (hgone.kept rfl)) ?_
      refine read_then (record_without rfl (by decide)) ?_
      refine read_then (withDefault_abridged hgone hports rfl rfl) ?_
      refine read_then (withDefault_abridged hgone reads_word32.abridged rfl rfl) ?_
      rfl

end RunUnit

namespace RunRequest

/-- The spare members of a run request. -/
def spare (r : RunRequest) : Spare := .members [
  .required "unit" r.unit.spare,
  .withDefault "process_type" r.processType "web" .nowhere,
  .optional "command" r.command fun _ => .nowhere,
  .required "lifecycle" r.lifecycle.spare,
  .required "droplet" r.droplet.spare,
  .optional "revision" r.revision Revision.spare,
  .withDefault "environment_variables" r.environment [] .nowhere,
  .optional "isolation_segment" r.isolationSegment fun _ => .nowhere,
  .required "workload" r.workload.spare,
  .withDefault "security_groups" r.securityGroups .none r.securityGroups.spare]

theorem readsAbridged : ReadsAbridged RunRequest.ofJson? RunRequest.document spare := by
  intro r gone hgone
  have hvariables := (reads_list EnvironmentVariable.reads).abridged
  have hrevision := Revision.readsAbridged.orNull fun v => by
    simp [Revision.document, Document.toJson]
  refine read_then (record_without rfl (by decide)) ?_
  refine read_then (required_of_kept hgone reads_text rfl rfl) ?_
  refine read_then (required_abridged hgone RunUnit.readsAbridged rfl rfl) ?_
  refine read_then (withDefault_abridged hgone reads_text.abridged rfl rfl) ?_
  refine read_then (optional_abridged hgone abridged_orNull_text rfl rfl) ?_
  refine read_then (required_of_kept hgone reads_word64 rfl rfl) ?_
  refine read_then (required_of_kept hgone reads_word64 rfl rfl) ?_
  refine read_then (required_of_kept hgone reads_int64 rfl rfl) ?_
  refine read_then (required_abridged hgone Lifecycle.readsAbridged rfl rfl) ?_
  refine read_then (required_abridged hgone Droplet.readsAbridged rfl rfl) ?_
  refine read_then (optional_abridged hgone hrevision rfl rfl) ?_
  refine read_then (withDefault_abridged hgone hvariables rfl rfl) ?_
  refine read_then (optional_abridged hgone abridged_orNull_text rfl rfl) ?_
  refine read_then (required_abridged hgone Workload.readsAbridged rfl rfl) ?_
  refine read_then (withDefault_abridged hgone SecurityGroups.readsAbridged rfl rfl) ?_
  rfl

end RunRequest

/-! ## Both kinds of requests -/

namespace Request

/--
**A request may be abridged**: the JSON value of a request is read as the request, and so is what is
left of that value when any of the members are gone that have a default and whose value is this
default, at any depth, many of them or none.
-/
theorem read_back_abridged :
    Reads StagingRequest.ofJson? StagingRequest.document ∧
    Reads RunRequest.ofJson? RunRequest.document ∧
    (∀ (r : StagingRequest) (gone : Json.Path → Bool), (∀ p, gone p = true → r.spare p) →
      StagingRequest.ofJson? (.ofJson (r.document.toJson.without gone)) = some r) ∧
    (∀ (r : RunRequest) (gone : Json.Path → Bool), (∀ p, gone p = true → r.spare p) →
      RunRequest.ofJson? (.ofJson (r.document.toJson.without gone)) = some r) := by
  have hstaging := StagingRequest.readsAbridged
  have hrun := RunRequest.readsAbridged
  exact ⟨hstaging.reads, hrun.reads, hstaging, hrun⟩

/-- A request to stage a package with nothing bound to it. -/
def plainStaging : StagingRequest :=
  { (default : StagingRequest) with lifecycle := .buildpack "cflinuxfs4" [] }

/-- A request to run one instance of a process with one binding. -/
def plainRun : RunRequest :=
  { (default : RunRequest) with
    unit := .process [] 1
    processType := "web"
    lifecycle := .cnb "cflinuxfs4" [] none
    workload := { (default : Workload) with bindings := [default] } }

/-- Members that the two requests can do without, some inside of others. -/
def plainGone : List Json.Path := [
  [.key "lifecycle", .key "data", .key "buildpacks"],
  [.key "workload", .key "features"],
  [.key "workload", .key "features", .key "service_binding_k8s_enabled"],
  [.key "security_groups"]]

/-- Members that the second one can do without besides. -/
def plainRunGone : List Json.Path := [
  [.key "process_type"],
  [.key "unit", .key "instances"],
  [.key "workload", .key "service_bindings", .item 0, .key "credentials"]]

theorem read_back_abridged_plain :
    (∀ p, plainGone.contains p = true → plainStaging.spare p) ∧
    StagingRequest.ofJson? (.ofJson (plainStaging.document.toJson.without plainGone.contains))
      = some plainStaging ∧
    (∀ p, (plainGone ++ plainRunGone).contains p = true → plainRun.spare p) ∧
    RunRequest.ofJson?
        (.ofJson (plainRun.document.toJson.without (plainGone ++ plainRunGone).contains))
      = some plainRun := by
  obtain ⟨-, -, hstaging, hrun⟩ := read_back_abridged
  have hplain : ∀ p, plainGone.contains p = true → plainStaging.spare p := by
    intro p hp
    have hmem : p ∈ plainGone := List.contains_iff_mem.1 hp
    simp only [plainGone, List.mem_cons, List.not_mem_nil, or_false] at hmem
    rcases hmem with rfl | rfl | rfl | rfl
    · exact ⟨_, rfl, _, rfl, _, rfl, rfl⟩
    · exact ⟨_, rfl, _, rfl, rfl⟩
    · exact ⟨_, rfl, _, rfl, _, rfl, rfl⟩
    · exact ⟨_, rfl, rfl⟩
  have hplainRun : ∀ p, (plainGone ++ plainRunGone).contains p = true → plainRun.spare p := by
    intro p hp
    have hmem : p ∈ plainGone ++ plainRunGone := List.contains_iff_mem.1 hp
    simp only [plainGone, plainRunGone, List.cons_append, List.nil_append, List.mem_cons,
      List.not_mem_nil, or_false] at hmem
    rcases hmem with rfl | rfl | rfl | rfl | rfl | rfl | rfl
    · exact ⟨_, rfl, _, rfl, _, rfl, rfl⟩
    · exact ⟨_, rfl, _, rfl, rfl⟩
    · exact ⟨_, rfl, _, rfl, _, rfl, rfl⟩
    · exact ⟨_, rfl, rfl⟩
    · exact ⟨_, rfl, rfl⟩
    · exact ⟨_, rfl, _, rfl, rfl⟩
    · exact ⟨_, rfl, _, rfl, _, rfl, _, rfl, rfl⟩
  exact ⟨hplain, hstaging _ _ hplain, hplainRun, hrun _ _ hplainRun⟩

end Request

end CellRecipe
