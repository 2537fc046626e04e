import CellRecipe.Proofs.JsonRecord
import CellRecipe.Proofs.Outcome
import CellRecipe.Staging.Message

/-!
# What becomes of a staging message

A message is written from a request, held against a schema and read again. Of the members that the
schema asks for only the three locations may be missing, so the schema complains of nothing else;
and a message that passes can always be read, so the reader never has the last word. What is read is
the request's own data, field by field.

## Main results

* `StagingMessage.violations_common`: the schema finds exactly the missing locations.
* `StagingMessage.forBuildpacks_eq`, `StagingMessage.forCnb_eq`: what a request gets.
* `StagingMessage.located_eq_ok`, `StagingMessage.located_eq_error`: its two answers.
* `StagingMessage.repeats_of_forBuildpacks`, `StagingMessage.repeats_of_forCnb`: what a message has
  of its request.
-/

namespace CellRecipe

open Json

/-! ## The parts of a message are read back -/

theorem PackageChecksum.reads : Reads PackageChecksum.ofJson? PackageChecksum.document := by
  intro c
  refine read_then (of?_ofJson_of_keys rfl (by decide)) ?_
  refine read_then (required_eq reads_text rfl) ?_
  refine read_then (optional_eq reads_orNull_text rfl) ?_
  rfl

theorem BuildpackEntry.reads : Reads BuildpackEntry.ofJson? BuildpackEntry.document := by
  intro e
  refine read_then (of?_ofJson_of_keys rfl (by decide)) ?_
  refine read_then (required_eq reads_text rfl) ?_
  refine read_then (required_eq reads_text rfl) ?_
  refine read_then (required_eq reads_text rfl) ?_
  refine read_then (withDefault_eq false reads_flag rfl) ?_
  rfl

/-! ## What a schema finds -/

/-- The complaint about a text that is missing, if it is. -/
def Violation.ofMissing? (field : String) (found : Option String) : Option Violation :=
  if found = none then some ⟨field, "a string", "null"⟩ else none

namespace Schema

theorem violations_append (s t : Schema) (message : Members) :
    violations (s ++ t) message = violations s message ++ violations t message :=
  List.filterMap_append

/-- A text that a message must have breaks the schema exactly when it is missing. -/
theorem violation?_must_text {message : Members} {name : String} (found : Option String)
    (h : valueAt message name = (Document.orNull .text found).toJson) :
    violation? message (must name .text) = Violation.ofMissing? name found := by
  rw [must, violation?, h]
  cases found <;> rfl

/-- A text that a message may have never breaks the schema. -/
theorem violation?_may_text {message : Members} {name : String} (found : Option String)
    (h : valueAt message name = (Document.orNull .text found).toJson) :
    violation? message (may name .text) = none := by
  rw [may, violation?, h]
  cases found <;> rfl

end Schema

namespace Blobstore

/-- The locations for results, under their names in a message and in the order of the schema. -/
def uploads (b : Blobstore) : List (String × Option String) :=
  [("build_artifacts_cache_upload_uri", b.cacheUpload), ("droplet_upload_uri", b.dropletUpload)]

/-- The complaints about locations that are missing. -/
def complaints (locations : List (String × Option String)) : List Violation :=
  locations.filterMap fun l => Violation.ofMissing? l.1 l.2

theorem complaints_eq_nil {locations : List (String × Option String)} :
    complaints locations = [] ↔ ∀ l ∈ locations, ∃ found, l.2 = some found := by
  simp [complaints, Violation.ofMissing?, Option.ne_none_iff_exists']

theorem complaints_uploads_eq_nil {b : Blobstore} :
    complaints b.uploads = []
      ↔ (∃ cache, b.cacheUpload = some cache) ∧ ∃ droplet, b.dropletUpload = some droplet := by
  simp [complaints_eq_nil, uploads]

end Blobstore

namespace StagingMessage

/-- Of what every message must have, only the locations may be missing. Members that a message has
besides do not matter. -/
theorem violations_common (request : StagingRequest) (stack : String)
    (entries : List BuildpackEntry) (extra : Members) :
    Schema.violations Schema.common (members request stack entries ++ extra)
      = Blobstore.complaints
        (("app_bits_download_uri", request.blobstore.packageDownload)
          :: request.blobstore.uploads) := by
  let message := members request stack entries ++ extra
  have hpackage : Schema.violation? message (Schema.must "app_bits_download_uri" .text)
      = Violation.ofMissing? "app_bits_download_uri" request.blobstore.packageDownload :=
    Schema.violation?_must_text _ rfl
  have hcache : Schema.violation? message (Schema.must "build_artifacts_cache_upload_uri" .text)
      = Violation.ofMissing? "build_artifacts_cache_upload_uri" request.blobstore.cacheUpload :=
    Schema.violation?_must_text _ rfl
  have hdroplet : Schema.violation? message (Schema.must "droplet_upload_uri" .text)
      = Violation.ofMissing? "droplet_upload_uri" request.blobstore.dropletUpload :=
    Schema.violation?_must_text _ rfl
  have hbuildpacks : Schema.violation? message (Schema.must "buildpacks" .list) = none := rfl
  have hstack : Schema.violation? message (Schema.must "stack" .text) = none := rfl
  have hchecksum : Schema.violation? message (Schema.must "app_bits_checksum" .object) = none := rfl
  show List.filterMap (Schema.violation? message) Schema.common = _
  simp only [Schema.common, Blobstore.complaints, Blobstore.uploads, List.filterMap_cons,
    List.filterMap_nil, hpackage, hcache, hdroplet, hbuildpacks, hstack, hchecksum]

/-- What every message may have never breaks the schema. -/
theorem violations_commonOptional (request : StagingRequest) (stack : String)
    (entries : List BuildpackEntry) (extra : Members) :
    Schema.violations Schema.commonOptional (members request stack entries ++ extra) = [] := by
  let message := members request stack entries ++ extra
  have hcache : Schema.violation? message
      (Schema.may "build_artifacts_cache_download_uri" .text) = none :=
    Schema.violation?_may_text request.blobstore.cacheDownload rfl
  have hchecksum : Schema.violation? message
      (Schema.may "buildpack_cache_checksum" .text) = none :=
    Schema.violation?_may_text request.blobstore.cacheChecksum rfl
  show List.filterMap (Schema.violation? message) Schema.commonOptional = _
  simp only [Schema.commonOptional, List.filterMap_cons, List.filterMap_nil, hcache, hchecksum]

/-- The schema for buildpacks complains of missing locations and of nothing else. -/
theorem violations_members (request : StagingRequest) (stack : String)
    (entries : List BuildpackEntry) :
    Schema.violations Schema.buildpack (members request stack entries)
      = Blobstore.complaints
        (("app_bits_download_uri", request.blobstore.packageDownload)
          :: request.blobstore.uploads) := by
  have hmembers : members request stack entries = members request stack entries ++ [] :=
    (List.append_nil _).symm
  rw [hmembers, Schema.buildpack, Schema.violations_append, violations_common,
    violations_commonOptional, List.append_nil]

/-- The schema for cloud native buildpacks complains of missing locations and of nothing else. -/
theorem violations_cnbMembers (request : StagingRequest) (stack : String) (asked : List Buildpack)
    (credentials : Option String) :
    Schema.violations Schema.cnb (cnbMembers request stack asked credentials)
      = Blobstore.complaints
        (("app_bits_download_uri", request.blobstore.packageDownload)
          :: request.blobstore.uploads) := by
  let message := cnbMembers request stack asked credentials
  have hdetect : Schema.violation? message (Schema.must "auto_detect" .flag) = none := rfl
  have hcredentials : Schema.violation? message (Schema.may "credentials" .text) = none :=
    Schema.violation?_may_text credentials rfl
  have hcommon : Schema.violations Schema.common message = _ :=
    violations_common request stack (BuildpackEntry.requested asked [])
      (cnbOnly asked credentials)
  have hoptional : Schema.violations Schema.commonOptional message = [] :=
    violations_commonOptional request stack (BuildpackEntry.requested asked [])
      (cnbOnly asked credentials)
  have hmiddle : Schema.violations (Schema.must "auto_detect" .flag :: Schema.commonOptional)
      message = [] := by
    rw [Schema.violations, List.filterMap_cons, hdetect]
    exact hoptional
  have hlast : Schema.violations [Schema.may "credentials" .text] message = [] := by
    rw [Schema.violations, List.filterMap_cons, hcredentials]
    rfl
  show Schema.violations Schema.cnb message = _
  rw [Schema.cnb, Schema.violations_append, Schema.violations_append, hcommon, hmiddle, hlast,
    List.append_nil, List.append_nil]

/-! ## A message that passes is read -/

/-- The message of a request whose locations are all there. -/
def resolved (request : StagingRequest) (stack : String) (entries : List BuildpackEntry)
    (package cache droplet : String) (credentials : Option String) (autoDetect : Bool) :
    StagingMessage where
  packageDownload := package
  cacheUpload := cache
  dropletUpload := droplet
  buildpacks := entries
  stack := stack
  packageChecksum := checksumOf request
  cacheDownload := request.blobstore.cacheDownload
  cacheChecksum := request.blobstore.cacheChecksum
  credentials := credentials
  autoDetect := autoDetect

/-- Every field but the last two comes from the members that all messages have. -/
private theorem ofJson?_of_common {request : StagingRequest} {stack : String}
    {entries : List BuildpackEntry} {ms extra : Members} {package cache droplet : String}
    {credentials : Option String} {autoDetect : Bool}
    (hms : ms = members request stack entries ++ extra) (hkeys : (keys ms).Nodup)
    (hpackage : request.blobstore.packageDownload = some package)
    (hcache : request.blobstore.cacheUpload = some cache)
    (hdroplet : request.blobstore.dropletUpload = some droplet)
    (hcredentials : (Record.ofObject ms).optional "credentials" text? = some credentials)
    (hdetect : (Record.ofObject ms).withDefault "auto_detect" false flag? = some autoDetect) :
    ofJson? (.ofJson (.object ms))
      = some (resolved request stack entries package cache droplet credentials autoDetect) := by
  have hpackage' : (Record.ofObject ms).required "app_bits_download_uri" text? = some package :=
    required_of_orNull reads_text hpackage (by rw [hms]; rfl)
  have hcache' : (Record.ofObject ms).required "build_artifacts_cache_upload_uri" text?
      = some cache := required_of_orNull reads_text hcache (by rw [hms]; rfl)
  have hdroplet' : (Record.ofObject ms).required "droplet_upload_uri" text? = some droplet :=
    required_of_orNull reads_text hdroplet (by rw [hms]; rfl)
  have hentries : (Record.ofObject ms).required "buildpacks" (list? BuildpackEntry.ofJson?)
      = some entries := required_eq (reads_list BuildpackEntry.reads) (by rw [hms]; rfl)
  have hstack : (Record.ofObject ms).required "stack" text? = some stack :=
    required_eq reads_text (by rw [hms]; rfl)
  have hchecksum : (Record.ofObject ms).required "app_bits_checksum" PackageChecksum.ofJson?
      = some (checksumOf request) := required_eq PackageChecksum.reads (by rw [hms]; rfl)
  have hrestore : (Record.ofObject ms).optional "build_artifacts_cache_download_uri" text?
      = some request.blobstore.cacheDownload := optional_eq reads_orNull_text (by rw [hms]; rfl)
  have hrestored : (Record.ofObject ms).optional "buildpack_cache_checksum" text?
      = some request.blobstore.cacheChecksum := optional_eq reads_orNull_text (by rw [hms]; rfl)
  rw [ofJson?, of?_ofJson_object _ hkeys]
  simp only [bind, Option.bind, hpackage', hcache', hdroplet', hentries, hstack, hchecksum,
    hrestore, hrestored, hcredentials, hdetect]
  rfl

/-- A message for buildpacks whose locations are all there is read as it was meant. -/
theorem ofJson?_members {request : StagingRequest} {package cache droplet : String}
    (stack : String) (entries : List BuildpackEntry)
    (hpackage : request.blobstore.packageDownload = some package)
    (hcache : request.blobstore.cacheUpload = some cache)
    (hdroplet : request.blobstore.dropletUpload = some droplet) :
    ofJson? (.ofJson (.object (members request stack entries)))
      = some (resolved request stack entries package cache droplet none false) := by
  have hkeys : (keys (members request stack entries)).Nodup := by
    show ["app_bits_download_uri", "build_artifacts_cache_upload_uri", "droplet_upload_uri",
      "buildpacks", "stack", "app_bits_checksum", "build_artifacts_cache_download_uri",
      "buildpack_cache_checksum"].Nodup
    decide
  exact ofJson?_of_common (List.append_nil _).symm hkeys hpackage hcache hdroplet
    (optional_of_absent _ rfl) (withDefault_of_absent _ _ rfl)

/-- A message for cloud native buildpacks whose locations are all there is read as it was meant. -/
theorem ofJson?_cnbMembers {request : StagingRequest} {package cache droplet : String}
    (stack : String) (asked : List Buildpack) (credentials : Option String)
    (hpackage : request.blobstore.packageDownload = some package)
    (hcache : request.blobstore.cacheUpload = some cache)
    (hdroplet : request.blobstore.dropletUpload = some droplet) :
    ofJson? (.ofJson (.object (cnbMembers request stack asked credentials)))
      = some (resolved request stack (BuildpackEntry.requested asked []) package cache droplet
        credentials asked.isEmpty) := by
  have hkeys : (keys (cnbMembers request stack asked credentials)).Nodup := by
    show ["app_bits_download_uri", "build_artifacts_cache_upload_uri", "droplet_upload_uri",
      "buildpacks", "stack", "app_bits_checksum", "build_artifacts_cache_download_uri",
      "buildpack_cache_checksum", "auto_detect", "credentials"].Nodup
    decide
  exact ofJson?_of_common rfl hkeys hpackage hcache hdroplet
    (optional_eq reads_orNull_text rfl) (withDefault_eq false reads_flag rfl)

/-! ## What a request gets -/

/-- What a request gets whose message may lack locations and nothing else: without a package no
other location matters, and with one all missing locations are named together. -/
def located (request : StagingRequest) (meant : String → String → String → StagingMessage) :
    Except Refusal StagingMessage :=
  match request.blobstore.packageDownload, request.blobstore.cacheUpload,
    request.blobstore.dropletUpload with
  | none, _, _ => .error (.missingDownload .package request.package.guid)
  | some package, some cache, some droplet => .ok (meant package cache droplet)
  | some _, _, _ => .error (.violations (Blobstore.complaints request.blobstore.uploads))

/-- Checking comes to that if the schema finds the missing locations and what passes is read. -/
private theorem checked_eq_located {schema : Schema} {request : StagingRequest} {ms : Members}
    {meant : String → String → String → StagingMessage}
    (hviolations : schema.violations ms
      = Blobstore.complaints (("app_bits_download_uri", request.blobstore.packageDownload)
        :: request.blobstore.uploads))
    (hread : ∀ {package cache droplet}, request.blobstore.packageDownload = some package →
      request.blobstore.cacheUpload = some cache → request.blobstore.dropletUpload = some droplet →
      ofJson? (.ofJson (.object ms)) = some (meant package cache droplet)) :
    checked schema request ms = located request meant := by
  unfold checked located
  rw [hviolations]
  cases hpackage : request.blobstore.packageDownload with
  | none => simp [Blobstore.complaints, Violation.ofMissing?]
  | some package =>
      cases hcache : request.blobstore.cacheUpload with
      | none => simp [Blobstore.complaints, Blobstore.uploads, Violation.ofMissing?, hcache]
      | some cache =>
          cases hdroplet : request.blobstore.dropletUpload with
          | none =>
              simp [Blobstore.complaints, Blobstore.uploads, Violation.ofMissing?, hcache,
                hdroplet]
          | some droplet =>
              rw [hread hpackage hcache hdroplet]
              simp [Blobstore.complaints, Blobstore.uploads, Violation.ofMissing?, hcache,
                hdroplet]

theorem forBuildpacks_eq (request : StagingRequest) (stack : String) (asked : List Buildpack) :
    forBuildpacks request stack asked
      = located request fun package cache droplet =>
        resolved request stack (BuildpackEntry.requested asked request.defaultBuildpacks) package
          cache droplet none false :=
  checked_eq_located (violations_members request stack _) (ofJson?_members stack _)

theorem forCnb_eq (request : StagingRequest) (stack : String) (asked : List Buildpack)
    (credentials : Option String) :
    forCnb request stack asked credentials
      = located request fun package cache droplet =>
        resolved request stack (BuildpackEntry.requested asked []) package cache droplet credentials
          asked.isEmpty :=
  checked_eq_located (violations_cnbMembers request stack asked credentials)
    (ofJson?_cnbMembers stack asked credentials)

theorem located_eq_ok {request : StagingRequest}
    {meant : String → String → String → StagingMessage} {m : StagingMessage} :
    located request meant = .ok m
      ↔ ∃ package cache droplet, request.blobstore.packageDownload = some package ∧
        request.blobstore.cacheUpload = some cache ∧
        request.blobstore.dropletUpload = some droplet ∧ meant package cache droplet = m := by
  unfold located
  cases request.blobstore.packageDownload <;> cases request.blobstore.cacheUpload <;>
    cases request.blobstore.dropletUpload <;> simp

theorem located_eq_error {request : StagingRequest}
    {meant : String → String → String → StagingMessage} {r : Refusal} :
    located request meant = .error r
      ↔ request.blobstore.packageDownload = none ∧
          r = .missingDownload .package request.package.guid ∨
        (∃ package, request.blobstore.packageDownload = some package) ∧
          Blobstore.complaints request.blobstore.uploads ≠ [] ∧
          r = .violations (Blobstore.complaints request.blobstore.uploads) := by
  unfold located
  rw [ne_eq, Blobstore.complaints_uploads_eq_nil]
  cases request.blobstore.packageDownload <;> cases request.blobstore.cacheUpload <;>
    cases request.blobstore.dropletUpload <;> simp [eq_comm]

/-- What a message has of a request: the locations, and the buildpacks that it names. -/
structure Carries (m : StagingMessage) (request : StagingRequest) (entries : List BuildpackEntry) :
    Prop where
  package : request.blobstore.packageDownload = some m.packageDownload
  cache : request.blobstore.cacheDownload = m.cacheDownload
  dropletUpload : request.blobstore.dropletUpload = some m.dropletUpload
  cacheUpload : request.blobstore.cacheUpload = some m.cacheUpload
  buildpacks : m.buildpacks = entries

/-- A message repeats what a request says, with the buildpacks, the credentials and the flag that
it was given. A checksum of the package that is not there is one without a value. -/
structure Repeats (m : StagingMessage) (request : StagingRequest) (stack : String)
    (entries : List BuildpackEntry) (credentials : Option String) (autoDetect : Bool) :
    Prop where
  package : request.blobstore.packageDownload = some m.packageDownload
  cacheUpload : request.blobstore.cacheUpload = some m.cacheUpload
  dropletUpload : request.blobstore.dropletUpload = some m.dropletUpload
  buildpacks : m.buildpacks = entries
  stack : m.stack = stack
  packageChecksum : m.packageChecksum = request.package.checksum.getD ⟨"sha256", none⟩
  cacheDownload : m.cacheDownload = request.blobstore.cacheDownload
  cacheChecksum : m.cacheChecksum = request.blobstore.cacheChecksum
  credentials : m.credentials = credentials
  autoDetect : m.autoDetect = autoDetect

section

variable {request : StagingRequest} {stack : String} {entries : List BuildpackEntry}
  {asked : List Buildpack} {credentials : Option String} {autoDetect : Bool} {m : StagingMessage}

theorem Repeats.carries (h : m.Repeats request stack entries credentials autoDetect) :
    m.Carries request entries :=
  ⟨h.package, h.cacheDownload.symm, h.dropletUpload, h.cacheUpload, h.buildpacks⟩

theorem repeats_resolved {package cache droplet : String}
    (hpackage : request.blobstore.packageDownload = some package)
    (hcache : request.blobstore.cacheUpload = some cache)
    (hdroplet : request.blobstore.dropletUpload = some droplet) :
    (resolved request stack entries package cache droplet credentials autoDetect).Repeats request
      stack entries credentials autoDetect :=
  ⟨hpackage, hcache, hdroplet, rfl, rfl, rfl, rfl, rfl, rfl, rfl⟩

private theorem repeats_of_located
    (h : located request (fun package cache droplet =>
      resolved request stack entries package cache droplet credentials autoDetect) = .ok m) :
    m.Repeats request stack entries credentials autoDetect := by
  obtain ⟨package, cache, droplet, hpackage, hcache, hdroplet, rfl⟩ := located_eq_ok.1 h
  exact repeats_resolved hpackage hcache hdroplet

theorem repeats_of_forBuildpacks (h : forBuildpacks request stack asked = .ok m) :
    m.Repeats request stack (BuildpackEntry.requested asked request.defaultBuildpacks) none
      false := by
  rw [forBuildpacks_eq] at h
  exact repeats_of_located h

theorem repeats_of_forCnb (h : forCnb request stack asked credentials = .ok m) :
    m.Repeats request stack (BuildpackEntry.requested asked []) credentials asked.isEmpty := by
  rw [forCnb_eq] at h
  exact repeats_of_located h

end

end StagingMessage

end CellRecipe
