import CellRecipe.Proofs.StagingMessage

/-!
# Messages that pass are read

A staging message is written under one list of names, held against a schema with a second one and
read with a third one. The schema knows kinds of values only, and the reader has defaults of its
own. Still the three agree: whatever the schema lets through is read, and every field of what is
read is what the request says.

A message that passes and cannot be read would be reported by a violation of its own kind. None of
the kinds of a schema has these words, so a refusal with them could only come from the reader, and
no request gets one.

## Main results

* `Schema.expected_of_mem_violations`: what a schema can expect.
* `StagingMessage.expected_of_checked_eq_error`: when a refusal comes from the schema alone.
* `StagingMessage.passed_reads_back`: what passes is read as it was meant.
-/

namespace CellRecipe

open Json

/-! ## What a schema can expect -/

theorem FieldKind.words_ne_unreadable (kind : FieldKind) :
    kind.words ≠ StagingMessage.unreadable.expected := by
  cases kind <;> decide

/-- A violation expects the kind of value that a field of the schema asks for. -/
theorem Schema.expected_of_mem_violations {schema : Schema} {message : Members} {v : Violation}
    (h : v ∈ schema.violations message) : ∃ f ∈ schema, v.expected = f.kind.words := by
  obtain ⟨f, hf, hv⟩ := List.mem_filterMap.1 h
  refine ⟨f, hf, ?_⟩
  unfold violation? at hv
  cases hvalue : valueAt message f.name with
  | null =>
      rw [hvalue] at hv
      obtain ⟨-, hv⟩ := Option.ite_none_right_eq_some.1 hv
      rw [← Option.some.inj hv]
  | _ =>
      rw [hvalue] at hv
      obtain ⟨-, hv⟩ := Option.ite_none_left_eq_some.1 hv
      rw [← Option.some.inj hv]

/-- Without defaults a message names what was asked for and nothing else. -/
theorem BuildpackEntry.requested_without_defaults (asked : List Buildpack) :
    requested asked [] = asked.map ofBuildpack := by
  cases asked <;> rfl

namespace StagingMessage

variable {request : StagingRequest} {stack : String} {schema : Schema} {ms : Members}
  {found : List Violation}

/-- Where the reader takes what passes, a refusal that names violations has them from the schema. -/
theorem expected_of_checked_eq_error
    (hread : schema.violations ms = [] → ∃ m, ofJson? (.ofJson (.object ms)) = some m)
    (h : checked schema request ms = .error (.violations found)) :
    ∀ v ∈ found, v.expected ≠ unreadable.expected := by
  -- A message that passes has been read, so what is found was found by the schema.
  have hfound : found = schema.violations ms := by
    unfold checked at h
    cases hviolations : schema.violations ms with
    | nil =>
        obtain ⟨m, hm⟩ := hread hviolations
        rw [hviolations] at h
        simp only [hm] at h
        cases h
    | cons first rest =>
        rw [hviolations] at h
        by_cases hpackage : request.blobstore.packageDownload.isNone = true
        · simp only [if_pos hpackage] at h
          cases h
        · simp only [if_neg hpackage] at h
          cases h
          rfl
  intro v hv
  rw [hfound] at hv
  obtain ⟨f, -, hf⟩ := Schema.expected_of_mem_violations hv
  rw [hf]
  exact f.kind.words_ne_unreadable

/-- A message without complaints has all its locations. -/
theorem exists_locations
    (h : Blobstore.complaints (("app_bits_download_uri", request.blobstore.packageDownload)
      :: request.blobstore.uploads) = []) :
    ∃ package cache droplet, request.blobstore.packageDownload = some package ∧
      request.blobstore.cacheUpload = some cache ∧
      request.blobstore.dropletUpload = some droplet := by
  have hall := Blobstore.complaints_eq_nil.1 h
  obtain ⟨⟨package, hpackage⟩, huploads⟩ := List.forall_mem_cons.1 hall
  obtain ⟨⟨cache, hcache⟩, ⟨droplet, hdroplet⟩⟩ :=
    Blobstore.complaints_uploads_eq_nil.1 (Blobstore.complaints_eq_nil.2 huploads)
  exact ⟨package, cache, droplet, hpackage, hcache, hdroplet⟩

theorem checked_eq_ok {m : StagingMessage} (hpassed : schema.violations ms = [])
    (hm : ofJson? (.ofJson (.object ms)) = some m) : checked schema request ms = .ok m := by
  unfold checked
  rw [hpassed]
  simp only [hm]

/-- Whatever passes the schema for buildpacks is read, field by field. -/
theorem exists_repeats_of_buildpack (entries : List BuildpackEntry)
    (h : Schema.buildpack.violations (members request stack entries) = []) :
    ∃ m, ofJson? (.ofJson (.object (members request stack entries))) = some m ∧
      m.Repeats request stack entries none false := by
  rw [violations_members] at h
  obtain ⟨package, cache, droplet, hpackage, hcache, hdroplet⟩ := exists_locations h
  exact ⟨_, ofJson?_members stack entries hpackage hcache hdroplet,
    repeats_resolved hpackage hcache hdroplet⟩

/-- Whatever passes the schema for cloud native buildpacks is read, field by field. -/
theorem exists_repeats_of_cnb (asked : List Buildpack) (credentials : Option String)
    (h : Schema.cnb.violations (cnbMembers request stack asked credentials) = []) :
    ∃ m, ofJson? (.ofJson (.object (cnbMembers request stack asked credentials))) = some m ∧
      m.Repeats request stack (asked.map BuildpackEntry.ofBuildpack) credentials
        asked.isEmpty := by
  rw [violations_cnbMembers] at h
  obtain ⟨package, cache, droplet, hpackage, hcache, hdroplet⟩ := exists_locations h
  rw [← BuildpackEntry.requested_without_defaults]
  exact ⟨_, ofJson?_cnbMembers stack asked credentials hpackage hcache hdroplet,
    repeats_resolved hpackage hcache hdroplet⟩

/-! ## What passes is read -/

/-- **A message that passes its schema is read as it was meant.** This holds of every request, stack
and list of buildpacks, and of every credentials for cloud native ones: all fields of what is read
are those of the request. So no refusal says of a message that it passes and cannot be read. -/
theorem passed_reads_back (request : StagingRequest) (stack : String) :
    (∀ entries, Schema.buildpack.violations (members request stack entries) = [] →
      ∃ m, ofJson? (.ofJson (.object (members request stack entries))) = some m ∧
        checked Schema.buildpack request (members request stack entries) = .ok m ∧
        m.Repeats request stack entries none false) ∧
    (∀ asked credentials,
      Schema.cnb.violations (cnbMembers request stack asked credentials) = [] →
      ∃ m, ofJson? (.ofJson (.object (cnbMembers request stack asked credentials))) = some m ∧
        forCnb request stack asked credentials = .ok m ∧
        m.Repeats request stack (asked.map BuildpackEntry.ofBuildpack) credentials
          asked.isEmpty) ∧
    (∀ entries found,
      checked Schema.buildpack request (members request stack entries)
        = .error (.violations found) → ∀ v ∈ found, v.expected ≠ "a staging message") ∧
    (∀ asked credentials found,
      forCnb request stack asked credentials = .error (.violations found) →
      ∀ v ∈ found, v.expected ≠ "a staging message") := by
  refine ⟨?_, ?_, ?_, ?_⟩
  · intro entries hpassed
    obtain ⟨m, hm, hrepeats⟩ := exists_repeats_of_buildpack entries hpassed
    exact ⟨m, hm, checked_eq_ok hpassed hm, hrepeats⟩
  · intro asked credentials hpassed
    obtain ⟨m, hm, hrepeats⟩ := exists_repeats_of_cnb asked credentials hpassed
    exact ⟨m, hm, checked_eq_ok hpassed hm, hrepeats⟩
  · intro entries found h
    refine expected_of_checked_eq_error (fun hpassed => ?_) h
    obtain ⟨m, hm, -⟩ := exists_repeats_of_buildpack entries hpassed
    exact ⟨m, hm⟩
  · intro asked credentials found h
    refine expected_of_checked_eq_error (fun hpassed => ?_) h
    obtain ⟨m, hm, -⟩ := exists_repeats_of_cnb asked credentials hpassed
    exact ⟨m, hm⟩

/-- A request without a cache and without a checksum of its package. -/
def freshRequest : StagingRequest :=
  { (default : StagingRequest) with
    blobstore := {
      packageDownload := some "https://store/package"
      dropletUpload := some "https://store/droplet"
      cacheDownload := none
      cacheUpload := some "https://store/cache"
      cacheChecksum := none } }

/-- A request that has no place for its droplet. -/
def undeliverable : StagingRequest :=
  { freshRequest with blobstore := { freshRequest.blobstore with dropletUpload := none } }

/-- Messages that pass, and messages that are refused for what they lack. -/
theorem passed_reads_back_fresh :
    (∃ m, checked Schema.buildpack freshRequest (members freshRequest "cflinuxfs4" []) = .ok m ∧
      m.Repeats freshRequest "cflinuxfs4" [] none false ∧
      m.packageChecksum = ⟨"sha256", none⟩) ∧
    (∃ m, forCnb freshRequest "cflinuxfs4" [.custom "https://packs/ruby"] (some "secret") = .ok m ∧
      m.credentials = some "secret" ∧ m.autoDetect = false) ∧
    (∃ found, forBuildpacks undeliverable "cflinuxfs4" [] = .error (.violations found) ∧
      ∀ v ∈ found, v.expected ≠ "a staging message") ∧
    (∃ found, forCnb undeliverable "cflinuxfs4" [] none = .error (.violations found) ∧
      ∀ v ∈ found, v.expected ≠ "a staging message") := by
  have hpassed : Schema.buildpack.violations (members freshRequest "cflinuxfs4" []) = [] := by
    rw [violations_members]
    rfl
  have hpassedCnb : Schema.cnb.violations (cnbMembers freshRequest "cflinuxfs4"
      [.custom "https://packs/ruby"] (some "secret")) = [] := by
    rw [violations_cnbMembers]
    rfl
  have hrefused : forBuildpacks undeliverable "cflinuxfs4" []
      = .error (.violations [⟨"droplet_upload_uri", "a string", "null"⟩]) :=
    forBuildpacks_eq undeliverable "cflinuxfs4" []
  have hrefusedCnb : forCnb undeliverable "cflinuxfs4" [] none
      = .error (.violations [⟨"droplet_upload_uri", "a string", "null"⟩]) :=
    forCnb_eq undeliverable "cflinuxfs4" [] none
  obtain ⟨hread, hreadCnb, -, -⟩ := passed_reads_back freshRequest "cflinuxfs4"
  obtain ⟨-, -, hexpected, hexpectedCnb⟩ := passed_reads_back undeliverable "cflinuxfs4"
  obtain ⟨m, -, hm, hrepeats⟩ := hread [] hpassed
  obtain ⟨m', -, hm', hrepeats'⟩ := hreadCnb _ _ hpassedCnb
  exact ⟨⟨m, hm, hrepeats, hrepeats.packageChecksum⟩,
    ⟨m', hm', hrepeats'.credentials, hrepeats'.autoDetect⟩,
    ⟨_, hrefused, hexpected [] _ hrefused⟩, ⟨_, hrefusedCnb, hexpectedCnb [] none _ hrefusedCnb⟩⟩

end StagingMessage

end CellRecipe
