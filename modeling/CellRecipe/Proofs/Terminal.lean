import CellRecipe.Proofs.CredentialFlow
import CellRecipe.Proofs.ImageGrammar
import CellRecipe.Proofs.OutputFile
import CellRecipe.Proofs.RecipeIdentity
import CellRecipe.Proofs.RenderedEnds

/-!
# The terminal and the file

Four kinds of documents are handed out: reasons for a failure, parts of an image reference, recipes
to stage and recipes to run. A document can go to the terminal or to a file. One would expect the
same text in both places, except that the terminal needs a line feed at the end. Here it is found
out for which documents this is so.

In JSON it is so for all of them. In YAML it depends on the text that is written last, which is the
message of a reason, the tag of an image, and in a recipe the password for its image, or the user
of its downloads if it has no password. Tags and users have no blanks. Messages and passwords come
from outside, and if they end in blanks the terminal does not show those.

## Main definitions

* `Program.SameDocument`: the terminal shows what the file holds.

## Main results

* `Program.sameDocument_iff`: what this means for the last text.
* `Recipe.lastText?_document`: the text that a recipe ends in.
* `Program.terminal_and_file`: which documents are shown as they are.
* `Program.not_all_sameDocument`: a reason that is shown without its last line.
-/

namespace CellRecipe

open Outcome CommandLine

/-! ## The last text of each kind -/

namespace Failure

/-- A reason passes on the text of the failure, or says no more than that staging failed. -/
theorem message_classify (text : String) :
    (classify text).message = text ∨ (classify text).message = stagingFailed := by
  unfold classify classifyBy
  split
  · exact .inr rfl
  · split
    · exact .inl rfl
    · exact .inr rfl

end Failure

namespace ImageReference

theorem isBlank_of_isTagChar {c : Char} (h : isTagChar c = true) : Text.isBlank c = false := by
  rcases isTagChar_iff.1 h with h | rfl | rfl
  · rcases h with ⟨low, high⟩ | ⟨low, high⟩ | ⟨low, high⟩ | rfl | rfl | rfl
    · exact Text.isBlank_of_between low high (by decide) (by decide)
    · exact Text.isBlank_of_between low high (by decide) (by decide)
    · exact Text.isBlank_of_between low high (by decide) (by decide)
    · decide
    · decide
    · decide
  · decide
  · decide

/-- The tag is what stands behind the name, or what is left of it without the mark of a digest. -/
theorem mem_of_mem_tag {host path tag : List Char} {c : Char}
    (h : c ∈ (ofParts host path tag).tag.toList) : c ∈ tag := by
  unfold ofParts at h
  split at h
  · rw [String.toList_ofList] at h
    exact List.mem_of_mem_drop h
  · rw [String.toList_ofList] at h
    exact h

/-- The tag of a reference has no blanks. It may have no characters at all, after the mark of a
digest. -/
theorem solid_tag_of_parse {raw : String} {r : ImageReference} (h : parse raw = .ok r) :
    Text.Solid r.tag.toList := by
  obtain ⟨-, -, -, htag, rfl⟩ := (parseChars_eq_ok_iff_of_cuts rfl rfl).1 (mapError_eq_ok.1 h)
  rw [isTag, isRun, Bool.and_eq_true, List.all_eq_true] at htag
  exact fun c hc => isBlank_of_isTagChar (htag.2 c (mem_of_mem_tag hc))

end ImageReference

namespace Recipe

theorem lastOfItems?_naturals (ports : List UInt32) :
    Document.lastOfItems? (ports.map fun p => .natural p.toNat) = none := by
  induction ports with
  | nil => rfl
  | cons p rest ih =>
      cases rest with
      | nil => rfl
      | cons q rest => exact ih

/-- A recipe ends in the password or the user of its image, or else in the user of its downloads,
unless it has ports or instances, which are numbers. -/
theorem lastText?_document (r : Recipe) :
    r.document.lastText? = if r.ports = [] ∧ r.instances = none then
        some ((r.imagePassword <|> r.imageUsername).getD r.downloadUser)
      else none := by
  have hentries : r.entries = r.entries.take 26 ++ [
      .always "legacy_download_user" (.text r.downloadUser),
      .ifSome "image_username" .text r.imageUsername,
      .ifSome "image_password" .text r.imagePassword,
      .ifAny "ports" (fun p => .natural p.toNat) r.ports,
      .ifSome "instances" (fun n => .natural n.toNat) r.instances] := rfl
  rw [document, Document.ofEntries, Document.lastText?, hentries, List.filterMap_append,
    Document.lastOfMembers?_append _ (by simp [Document.Entry.always])]
  cases hports : r.ports with
  | nil =>
      cases r.instances with
      | none => cases r.imageUsername <;> cases r.imagePassword <;> rfl
      | some n => cases r.imageUsername <;> cases r.imagePassword <;> rfl
  | cons p rest =>
      have hnumbers := lastOfItems?_naturals (p :: rest)
      cases r.instances with
      | none =>
          cases r.imageUsername <;> cases r.imagePassword <;>
            simpa [Document.Entry.always, Document.Entry.ifSome, Document.Entry.ifAny,
              Document.lastOfMembers?, Document.lastText?] using hnumbers
      | some n =>
          cases r.imageUsername <;> cases r.imagePassword <;> rfl

variable {settings : Settings} {recipe : Recipe}

theorem lastText?_of_ofStaging_eq_ok {request : StagingRequest}
    (h : ofStaging settings request = .ok recipe) :
    recipe.document.lastText? = some Container.workloadUser := by
  obtain ⟨husername, hpassword⟩ := imageCredentials_of_ofStaging_eq_ok h
  obtain ⟨plan, rules, files, -, -, -, rfl⟩ := ofStaging_eq_ok.1 h
  rw [lastText?_document, husername, hpassword]
  rfl

/-- A process ends in its number of instances, a task in the password for its image. -/
theorem lastText?_of_ofRun_eq_ok {request : RunRequest}
    (h : ofRun settings request = .ok recipe) :
    recipe.document.lastText? = if recipe.instances.isSome then none
      else some (recipe.imagePassword.getD Container.workloadUser) := by
  obtain ⟨plan, root, rules, files, -, -, -, -, rfl⟩ := ofRun_eq_ok.1 h
  rw [lastText?_document]
  cases hunit : request.unit with
  | task name =>
      cases hcredentials : plan.imageCredentials <;>
        simp [launched, unitPart, hunit, hcredentials]
  | process ports instances => simp [launched, unitPart, hunit]

end Recipe

/-! ## Handing out twice -/

namespace Program

/-- The text for the terminal and the text in a file are the same, but for a line feed at the end
that only the terminal needs. -/
def SameDocument (format : OutputFormat) (d : Document) : Prop :=
  ∀ store path shown written, handOut store format none d = .ok shown →
    handOut store format (some path) d = .ok written →
    ∃ text, written.store.read path = .ok text ∧ shown.display = Text.withBreak text

theorem sameDocument_iff {format : OutputFormat} {d : Document} :
    SameDocument format d ↔ format = .json ∨ ∀ s, d.lastText? = some s → Yaml.Kept s := by
  rw [← OutputFormat.display_eq_withBreak_iff]
  have hread : ∀ {store : FileStore} {path : String} {written : Success},
      handOut store format (some path) d = .ok written →
        written.store.read path = .ok (format.render d) :=
    fun h => FileStore.read_write (write_of_handOut_eq_ok h).1
  constructor
  · intro h
    have htakes : FileStore.empty.Takes (some "document") := by
      intro path hpath
      cases hpath
      decide
    have hwrites : ∃ written, handOut FileStore.empty format (some "document") d = .ok written :=
      exists_handOut_eq_ok.2 htakes
    obtain ⟨written, hwritten⟩ := hwrites
    obtain ⟨text, htext, hshown⟩ := h FileStore.empty "document" _ _ rfl hwritten
    rw [hread hwritten, Except.ok.injEq] at htext
    rw [htext]
    exact hshown
  · intro h store path shown written hshown hwritten
    rw [handOut, Except.ok.injEq] at hshown
    subst hshown
    exact ⟨format.render d, hread hwritten, h⟩

theorem sameDocument_iff_of_lastText {format : OutputFormat} {d : Document} {s : String}
    (h : d.lastText? = some s) : SameDocument format d ↔ format = .json ∨ Yaml.Kept s := by
  rw [sameDocument_iff, h]
  simp

/-- The user of downloads has no blanks. -/
theorem kept_workloadUser : Yaml.Kept Container.workloadUser := Yaml.kept_of_solid (by decide)

theorem kept_stagingFailed : Yaml.Kept Failure.stagingFailed := .inr (by decide)

/-- **What the terminal shows and what a file holds.** In JSON both are the same document, up to a
line feed at the end. In YAML a reason is the same unless it passes on a text that loses blanks at
its end; the parts of an image and a recipe to stage are always the same; and so is a recipe to run,
unless it is for a task with a password that loses blanks at its end. -/
theorem terminal_and_file (format : OutputFormat) :
    (∀ text, SameDocument format (Failure.classify text).document ↔ format = .json ∨
      (Failure.classify text).message = Failure.stagingFailed ∨ Yaml.Kept text) ∧
    (∀ raw r, ImageReference.parse raw = .ok r → SameDocument format r.summary) ∧
    (∀ settings request recipe, Recipe.ofStaging settings request = .ok recipe →
      SameDocument format recipe.document) ∧
    ∀ settings request recipe, Recipe.ofRun settings request = .ok recipe →
      (SameDocument format recipe.document ↔ format = .json ∨ recipe.instances.isSome = true ∨
        ∀ password, recipe.imagePassword = some password → Yaml.Kept password) := by
  refine ⟨?_, ?_, ?_, ?_⟩
  · intro text
    have hlast : (Failure.classify text).document.lastText?
        = some (Failure.classify text).message := rfl
    rw [sameDocument_iff_of_lastText hlast]
    rcases Failure.message_classify text with hmessage | hmessage
    · rw [hmessage]
      refine or_congr_right ⟨.inr, ?_⟩
      rintro (rfl | hkept)
      · exact kept_stagingFailed
      · exact hkept
    · simp [hmessage, kept_stagingFailed]
  · intro raw r h
    have hkept := Yaml.kept_of_solid (ImageReference.solid_tag_of_parse h)
    exact (sameDocument_iff_of_lastText rfl).2 (.inr hkept)
  · intro settings request recipe h
    have hlast := Recipe.lastText?_of_ofStaging_eq_ok h
    exact (sameDocument_iff_of_lastText hlast).2 (.inr kept_workloadUser)
  · intro settings request recipe h
    have hlast := Recipe.lastText?_of_ofRun_eq_ok h
    cases hinstances : recipe.instances with
    | some n =>
        rw [hinstances] at hlast
        simp [sameDocument_iff, hlast]
    | none =>
        rw [hinstances] at hlast
        rw [sameDocument_iff_of_lastText hlast]
        cases recipe.imagePassword with
        | none => simp [kept_workloadUser]
        | some password => simp

/-- A digest, a recipe to stage and a process are shown as they are, and so is a message that ends
in one line feed. -/
theorem terminal_and_file_shown :
    SameDocument .yaml (Failure.classify "found no compatible cell\n").document ∧
    (∃ r, ImageReference.parse "app@sha256:" = .ok r ∧ SameDocument .yaml r.summary) ∧
    (∃ recipe, Recipe.ofStaging Recipe.buildpackSettings Recipe.wiredRequest = .ok recipe ∧
      SameDocument .yaml recipe.document) ∧
    ∃ recipe, Recipe.ofRun Recipe.stackSettings Recipe.listeningRun = .ok recipe ∧
      SameDocument .yaml recipe.document := by
  obtain ⟨hreasons, himages, hstaging, hrunning⟩ := terminal_and_file .yaml
  have himage : ∃ r, ImageReference.parse "app@sha256:" = .ok r := ⟨_, rfl⟩
  have hstaged : ∃ recipe, Recipe.ofStaging Recipe.buildpackSettings Recipe.wiredRequest
      = .ok recipe := ⟨_, rfl⟩
  have hlaunched : ∃ recipe, Recipe.ofRun Recipe.stackSettings Recipe.listeningRun
      = .ok recipe := ⟨_, rfl⟩
  obtain ⟨r, himage⟩ := himage
  obtain ⟨staged, hstaged⟩ := hstaged
  obtain ⟨launched, hlaunched⟩ := hlaunched
  have hkept : Yaml.Kept "found no compatible cell\n" := .inr (by decide)
  have hinstances : launched.instances.isSome = true := by
    cases hlaunched
    rfl
  exact ⟨(hreasons _).2 (.inr (.inr hkept)), ⟨r, himage, himages _ r himage⟩,
    ⟨staged, hstaged, hstaging _ _ _ hstaged⟩, launched, hlaunched,
    (hrunning _ _ _ hlaunched).2 (.inr (.inl hinstances))⟩

/-- A reason whose text ends in an empty line: the terminal does not show that line. -/
theorem not_all_sameDocument :
    ¬ ∀ format text, SameDocument format (Failure.classify text).document := by
  intro hall
  have hlast : (Failure.classify "found no compatible cell\n\n").document.lastText?
      = some "found no compatible cell\n\n" := by decide +kernel
  have hsame := (sameDocument_iff_of_lastText hlast).1 (hall .yaml "found no compatible cell\n\n")
  have hlost : ¬ Yaml.Kept "found no compatible cell\n\n" := by
    unfold Yaml.Kept Yaml.Quoted
    decide +kernel
  rcases hsame with hjson | hkept
  · exact OutputFormat.noConfusion hjson
  · exact hlost hkept

end Program

end CellRecipe
