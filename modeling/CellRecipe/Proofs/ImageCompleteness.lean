import CellRecipe.Proofs.ImageRendering

/-!
# References with an empty part

A complete reference has a tag, or a digest without a mark, and an image behind the last slash of
its path. The reader looks at the length and at the characters of what it has cut out of a text, and
then goes on with something else: the mark of a digest is taken off a tag that was long enough with
it, and official images get their namespace before the path is looked at. A mark that it does not
take off stays, and a slash is a character of a path wherever it stands.

So a reference with a tag, or without any, always gets one. But a digest may turn out empty, or with
its mark or another one in it, and a path may end in a slash, that of the namespace included. What
is written tells when that is so.

## Main definitions

* `ImageReference.Complete`: a reference with all its parts.
* `ImageReference.Parts.Whole`: what is written for such a reference.

## Main results

* `ImageReference.Suffix.Gives.tag_complete`: a tag is never empty.
* `ImageReference.Suffix.Gives.digest_complete_iff`: a digest is complete where digits stand behind
  the mark.
* `ImageReference.Parts.Spell.named_iff`: a path ends as the name does.
* `ImageReference.complete_iff_of_parse`: the references that are read.
-/

namespace CellRecipe.ImageReference

/-- A path with an image behind its last slash. -/
def Named (path : List Char) : Prop := path ≠ [] ∧ path.getLast? ≠ some '/'

/-- A reference with all its parts: a tag where one is written or none, a digest without its mark
where one is written, and an image. -/
structure Complete (p : Parts) (r : ImageReference) : Prop where
  tag : ∀ cs, p.suffix.completed = .tag cs →
    r.tag.toList ≠ [] ∧ ∀ c ∈ r.tag.toList, TagChar c
  digest : ∀ cs, p.suffix = .digest cs → r.tag.toList ≠ [] ∧ '@' ∉ r.tag.toList
  named : Named r.repository

/-- The parts of a complete reference, as they are written. -/
structure Parts.Whole (p : Parts) : Prop where
  digest : ∀ cs, p.suffix = .digest cs →
    ∃ digits, cs = "sha256:".toList ++ digits ∧ digits ≠ [] ∧ '@' ∉ digits
  named : Named p.name

namespace Suffix

/-- The tag of a reference that gives none is a tag of the grammar. -/
theorem Allowed.completed {s : Suffix} (h : s.Allowed) : s.completed.Allowed := by
  cases h with
  | none =>
      obtain ⟨nonempty, short, each⟩ := isTag_iff.1 (Allowed.isTag_read .none)
      refine .tag nonempty short ?_
      intro c hc
      rcases each c hc with hchar | rfl | rfl
      · exact hchar
      · exact absurd hc (by decide)
      · exact absurd hc (by decide)
  | tag nonempty short each => exact .tag nonempty short each
  | digest short each => exact .digest short each

variable {host path cs : List Char} {r : ImageReference}

/-- Where no digest is written there is a tag, and it is the one that is written. -/
theorem Gives.tag_complete {s : Suffix} (allowed : s.Allowed) (h : s.Gives host path r)
    (tagged : s.completed = .tag cs) :
    r.tag.toList ≠ [] ∧ ∀ c ∈ r.tag.toList, TagChar c := by
  have htag : r.tag.toList = cs := by
    cases h with
    | latest => exact Suffix.tag.inj tagged
    | tag written => exact String.toList_ofList.trans (Suffix.tag.inj tagged)
    | sha256 digits => cases tagged
    | digest unmarked => cases tagged
  have hcompleted := allowed.completed
  rw [tagged] at hcompleted
  rw [htag]
  cases hcompleted with
  | tag nonempty short each => exact ⟨List.ne_nil_of_length_pos nonempty, each⟩

/-- Of a digest, the mark by `sha256` alone is taken off, whatever stands behind it. -/
theorem Gives.digest_complete_iff (h : (Suffix.digest cs).Gives host path r) :
    (r.tag.toList ≠ [] ∧ '@' ∉ r.tag.toList) ↔
      ∃ digits, cs = "sha256:".toList ++ digits ∧ digits ≠ [] ∧ '@' ∉ digits := by
  cases h with
  | sha256 digits =>
      rw [String.toList_ofList]
      constructor
      · rintro ⟨nonempty, plain⟩
        exact ⟨digits, rfl, nonempty, plain⟩
      · rintro ⟨written, same, nonempty, plain⟩
        rw [List.append_cancel_left same]
        exact ⟨nonempty, plain⟩
  | digest unmarked =>
      constructor
      · rintro ⟨-, plain⟩
        exact absurd (by simp) plain
      · rintro ⟨digits, rfl, -, -⟩
        exact absurd (List.prefix_append _ _) unmarked

end Suffix

/-- A path ends as the name does. Where there is no name it ends as the namespace of the official
images. -/
theorem Parts.Spell.named_iff {p : Parts} {t : List Char} (h : p.Spell t) :
    Named p.path ↔ Named p.name := by
  have nonempty : p.path ≠ [] := by
    intro hpath
    have hlong := h.long
    rw [hpath] at hlong
    exact absurd hlong (by decide)
  unfold Parts.path at nonempty ⊢
  split
  · cases p.name with
    | nil => simp [Named]
    | cons c rest => simp [Named]
  · rfl

/-- A reference is complete when whole parts are written. -/
theorem Parts.Spell.complete_iff {p : Parts} {t : List Char} {r : ImageReference} (h : p.Spell t)
    (gives : p.Gives r) : Complete p r ↔ p.Whole := by
  have digest : ∀ cs, p.suffix = .digest cs → ((r.tag.toList ≠ [] ∧ '@' ∉ r.tag.toList) ↔
      ∃ digits, cs = "sha256:".toList ++ digits ∧ digits ≠ [] ∧ '@' ∉ digits) := by
    intro cs written
    rw [Parts.Gives, written] at gives
    exact gives.digest_complete_iff
  have named : Named r.repository ↔ Named p.name := by
    rw [(h.repository_of_gives gives).1, h.named_iff]
  constructor
  · intro complete
    exact ⟨fun cs written => (digest cs written).1 (complete.digest cs written),
      named.1 complete.named⟩
  · intro whole
    exact ⟨fun cs => Suffix.Gives.tag_complete h.suffix gives,
      fun cs written => (digest cs written).2 (whole.digest cs written), named.2 whole.named⟩

/--
**References with an empty part.** A reference with a tag, or without any, is read with a tag, which
is not empty and has no separators. The whole reference is complete exactly when its name does not
end in a slash and its digest, if there is one, is made of the mark by `sha256` and of digits
without another mark.
-/
theorem complete_iff_of_parse {raw : String} {r : ImageReference} (h : parse raw = .ok r) :
    ∃ p : Parts, p.WrittenAs raw ∧ (Complete p r ↔ p.Whole) ∧
      ∀ cs, p.suffix.completed = .tag cs →
        r.tag.toList ≠ [] ∧ ∀ c ∈ r.tag.toList, TagChar c := by
  obtain ⟨p, ⟨t, stripped, hp⟩, gives⟩ := parse_eq_ok_iff.1 h
  exact ⟨p, ⟨t, stripped, hp⟩, hp.complete_iff gives,
    fun cs => Suffix.Gives.tag_complete hp.suffix gives⟩

/-- No complete reference has an empty tag. -/
theorem Complete.tag_ne_nil {p : Parts} {r : ImageReference} (h : Complete p r) :
    r.tag.toList ≠ [] := by
  cases hsuffix : p.suffix with
  | none => exact (h.tag latest (by rw [hsuffix]; rfl)).1
  | tag cs => exact (h.tag cs (by rw [hsuffix]; rfl)).1
  | digest cs => exact (h.digest cs hsuffix).1

/-- An image with a tag, and one with the mark of a digest and nothing behind it. -/
theorem complete_iff_of_parse_mark :
    (parse "nginx:1.25" = .ok ⟨"", "library/nginx", "1.25"⟩ ∧
      ∃ p : Parts, p.WrittenAs "nginx:1.25" ∧ p.Whole ∧
        Complete p ⟨"", "library/nginx", "1.25"⟩) ∧
    parse "registry/image@sha256:" = .ok ⟨"registry", "image@sha256", ""⟩ ∧
      ∃ p : Parts, p.WrittenAs "registry/image@sha256:" ∧ ¬ p.Whole ∧
        ¬ Complete p ⟨"registry", "image@sha256", ""⟩ := by
  have tagged : parse "nginx:1.25" = .ok ⟨"", "library/nginx", "1.25"⟩ := by decide
  have marked : parse "registry/image@sha256:" = .ok ⟨"registry", "image@sha256", ""⟩ := by decide
  refine ⟨⟨tagged, ?_⟩, marked, ?_⟩
  · obtain ⟨p, written, whole, tag⟩ := complete_iff_of_parse tagged
    have complete : Complete p ⟨"", "library/nginx", "1.25"⟩ :=
      ⟨tag, fun _ _ => by decide, by decide, by decide⟩
    exact ⟨p, written, whole.1 complete, complete⟩
  · obtain ⟨p, written, whole, -⟩ := complete_iff_of_parse marked
    have incomplete : ¬ Complete p ⟨"registry", "image@sha256", ""⟩ :=
      fun complete => complete.tag_ne_nil rfl
    exact ⟨p, written, fun h => incomplete (whole.2 h), incomplete⟩

/-- Not every reference that is read is complete. -/
theorem not_all_complete : ¬ ∀ (raw : String) (r : ImageReference), parse raw = .ok r →
    ∀ p : Parts, p.WrittenAs raw → Complete p r := by
  intro hall
  have marked : parse "registry/image@sha256:" = .ok ⟨"registry", "image@sha256", ""⟩ := by decide
  obtain ⟨p, written, -⟩ := parse_eq_ok_iff.1 marked
  exact (hall _ _ marked p written).tag_ne_nil rfl

end CellRecipe.ImageReference
