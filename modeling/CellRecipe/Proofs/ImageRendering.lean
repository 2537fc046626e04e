import CellRecipe.Proofs.ImageGrammar

/-!
# References as they are rendered

The scheduler gets a reference as one text, `docker://host/path#tag`. The host may be anything
without a slash, a number sign and the mark of a digest included. But it ends at the first slash
behind the scheme, and a path has no number sign, so the three parts can be found again and two
references are the same when they are rendered alike.

A reference in turn can be written in several ways. A missing host is an empty one, official images
need no namespace, and a missing tag is the latest one. Apart from that, what is written differently
is read differently. A digest leaves its mark on the path, where no name has such a mark, so it is
never taken for a tag.

## Main definitions

* `ImageReference.Renderable`: what can be found again when it is rendered.
* `ImageReference.Suffix.completed`: a suffix with the tag that is left out.
* `ImageReference.repository`, `ImageReference.fragment`: the path and the tag before the mark of a
  digest goes from one to the other.

## Main results

* `ImageReference.Renderable.text_inj`: rendered texts are as different as what they are made of.
* `ImageReference.Renderable.parse_text`: what is rendered is not read again.
* `ImageReference.Parts.Spell.gives_inj`: what is written differently is read differently.
* `ImageReference.text_unambiguous`: references that are read from two texts.
-/

namespace CellRecipe.ImageReference

/-! ## Rendered texts -/

/-- The host ends before a slash, the path before a number sign, and the tag without a blank. -/
structure Renderable (r : ImageReference) : Prop where
  host : '/' ∉ r.host.toList
  path : '#' ∉ r.path.toList
  tag : ∀ c ∈ r.tag.toList, Text.isBlank c = false

theorem toList_text (r : ImageReference) : r.text.toList
    = "docker://".toList ++ (r.host.toList ++ '/' :: (r.path.toList ++ '#' :: r.tag.toList)) := by
  simp [text, scheme]

/-- Rendered texts are as different as what they are made of. -/
theorem Renderable.text_inj {r r' : ImageReference} (h : r.Renderable) (h' : r'.Renderable) :
    r.text = r'.text ↔ r = r' := by
  constructor
  · intro same
    have hchars := congrArg String.toList same
    rw [toList_text, toList_text, List.append_cancel_left_eq,
      Text.append_cons_inj h.host h'.host, Text.append_cons_inj h.path h'.path] at hchars
    obtain ⟨host, path, tag⟩ := hchars
    cases r
    cases r'
    simp_all [String.toList_inj]
  · rintro rfl
    rfl

/-- A rendered text has no blanks at its ends. -/
theorem Renderable.stripped {r : ImageReference} (h : r.Renderable) :
    Text.Stripped r.text.toList r.text.toList := by
  apply Text.stripped_of_ends
  · intro c hc
    rw [toList_text] at hc
    obtain rfl : 'd' = c := Option.some.inj hc
    decide
  · intro c hc
    rw [toList_text, ← List.cons_append, ← List.append_assoc, ← List.append_assoc,
      List.getLast?_append_cons] at hc
    rcases List.mem_cons.1 (List.mem_of_getLast? hc) with rfl | htag
    · decide
    · exact h.tag c htag

/-- A rendered text has a scheme, so it is refused as it stands. -/
theorem Renderable.parse_text {r : ImageReference} (h : r.Renderable) :
    parse r.text = .error ⟨r.text, .schemeGiven⟩ := by
  have marked : Text.hasScheme r.text.toList = true := by
    rw [Text.hasScheme_iff, toList_text]
    exact ⟨"docker".toList, _, by simp; rfl⟩
  have refused : parseChars r.text.toList = .error .schemeGiven := by
    rw [parseChars, if_pos marked]
  simp only [parse, Text.stripped_iff.1 h.stripped, refused, String.ofList_toList,
    Except.mapError]

/-! ## The mark of a digest -/

/-- The path without the mark of a digest. -/
def repository (r : ImageReference) : List Char := r.path.toList.takeWhile (· != '@')

/-- The tag, or a digest with its mark before it. -/
def fragment (r : ImageReference) : List Char :=
  if '@' ∈ r.path.toList then "@sha256:".toList ++ r.tag.toList else r.tag.toList

/-- Wherever the mark of a digest goes, the path and the tag can be found again. -/
theorem repository_ofParts {path : List Char} (plain : '@' ∉ path) (host tag : List Char) :
    (ofParts host path tag).repository = path ∧ (ofParts host path tag).fragment = tag := by
  have hpath : ∀ c ∈ path, (c != '@') = true := by
    intro c hc
    simp only [bne_iff_ne]
    rintro rfl
    exact plain hc
  have hfound : ∀ rest, (path ++ rest).takeWhile (· != '@') = path ++ rest.takeWhile (· != '@') :=
    fun _ => List.takeWhile_append_of_pos hpath
  by_cases marked : "@sha256:".toList <+: tag
  · obtain ⟨digits, rfl⟩ := marked
    rw [repository, fragment, ofParts_of_prefix]
    constructor
    · simp [hfound]
    · simp
  · rw [repository, fragment, ofParts_of_not_prefix marked]
    constructor
    · simpa using hfound []
    · simp [plain]

theorem host_ofParts (host path tag : List Char) : (ofParts host path tag).host.toList = host := by
  unfold ofParts
  split <;> exact String.toList_ofList

namespace Suffix

/-- A suffix with the tag that is left out. -/
def completed : Suffix → Suffix
  | .none => .tag latest
  | .tag cs => .tag cs
  | .digest cs => .digest cs

/-- The suffix that is read as a tag. -/
def ofRead : List Char → Suffix
  | '@' :: cs => .digest cs
  | cs => .tag cs

theorem read_completed (s : Suffix) : s.completed.read = s.read := by
  cases s <;> rfl

/-- A tag does not start like a digest, so what was read tells what was written. -/
theorem Allowed.ofRead_read {s : Suffix} (h : s.Allowed) : ofRead s.read = s.completed := by
  cases h with
  | none => rfl
  | @tag cs nonempty short each =>
      unfold ofRead read
      split
      · next digest hread =>
          obtain rfl : cs = '@' :: digest := hread
          exact absurd (each '@' List.mem_cons_self) not_tagChar.1
      · rfl
  | digest short each => rfl

/-- Two suffixes are read alike when the same tag or the same digest is written. -/
theorem Allowed.read_inj {s s' : Suffix} (h : s.Allowed) (h' : s'.Allowed) :
    s.read = s'.read ↔ s.completed = s'.completed := by
  constructor
  · intro same
    rw [← h.ofRead_read, same, h'.ofRead_read]
  · intro same
    rw [← read_completed, same, read_completed]

/-- The mark of a digest is all that comes to a path. -/
theorem Gives.path {s : Suffix} {host path : List Char} {r : ImageReference}
    (h : s.Gives host path r) :
    r.path.toList = path ∨ r.path.toList = path ++ "@sha256".toList := by
  cases h with
  | latest => exact .inl String.toList_ofList
  | tag cs => exact .inl String.toList_ofList
  | sha256 digits => exact .inr String.toList_ofList
  | digest unmarked => exact .inl String.toList_ofList

/-- A tag is made of what stands behind the name. -/
theorem Gives.tag_subset {s : Suffix} {host path : List Char} {r : ImageReference}
    (h : s.Gives host path r) : r.tag.toList ⊆ s.read := by
  cases h with
  | latest => exact fun c hc => hc
  | tag cs => simp [read]
  | sha256 digits =>
      rw [String.toList_ofList]
      exact List.subset_append_right "@sha256:".toList digits
  | digest unmarked => simp [read]

end Suffix

/-- No character of a tag or a digest is blank. -/
theorem not_blank_of_tagChar {c : Char} (h : TagChar c ∨ c = '@' ∨ c = ':') :
    Text.isBlank c = false := by
  rcases h with (h | h | h | rfl | rfl | rfl) | rfl | rfl
  · exact Text.isBlank_of_between h.1 h.2 (by decide) (by decide)
  · exact Text.isBlank_of_between h.1 h.2 (by decide) (by decide)
  · exact Text.isBlank_of_between h.1 h.2 (by decide) (by decide)
  all_goals decide

namespace Parts.Spell

variable {p q : Parts} {t u : List Char} {r r' : ImageReference}

/-- The host of a reference is the one that is written, before the first slash. -/
theorem host_of_gives (h : p.Spell t) (gives : p.Gives r) : r.host.toList = p.host.getD [] := by
  rw [← (Suffix.gives_iff h.suffix).1 gives, host_ofParts]

theorem repository_of_gives (h : p.Spell t) (gives : p.Gives r) :
    r.repository = p.path ∧ r.fragment = p.suffix.read := by
  have plain : '@' ∉ p.path := fun hc => not_pathChar.1 (h.each _ hc)
  rw [← (Suffix.gives_iff h.suffix).1 gives]
  exact repository_ofParts plain _ _

/-- What is read can be rendered so that it is found again. -/
theorem renderable (h : p.Spell t) (gives : p.Gives r) : r.Renderable where
  host := by
    rw [h.host_of_gives gives]
    cases hhost : p.host with
    | none => simp
    | some host => exact h.host host hhost
  path := by
    have hmark : ¬ PathChar '#' := by
      unfold PathChar
      decide
    have hpath : '#' ∉ p.path := fun hc => hmark (h.each _ hc)
    rcases Suffix.Gives.path gives with hr | hr
    · rwa [hr]
    · rw [hr, List.mem_append, not_or]
      exact ⟨hpath, by decide⟩
  tag := by
    obtain ⟨-, -, each⟩ := isTag_iff.1 h.suffix.isTag_read
    intro c hc
    exact not_blank_of_tagChar (each c (Suffix.Gives.tag_subset gives hc))

/-- References are the same when host, repository and tag or digest are, a missing tag being the
latest one. -/
theorem gives_inj (hp : p.Spell t) (hq : q.Spell u) (given : p.Gives r) (given' : q.Gives r') :
    r = r' ↔ p.host.getD [] = q.host.getD [] ∧ p.path = q.path ∧
      p.suffix.completed = q.suffix.completed := by
  rw [← hp.suffix.read_inj hq.suffix]
  constructor
  · rintro rfl
    obtain ⟨path, suffix⟩ := hp.repository_of_gives given
    obtain ⟨path', suffix'⟩ := hq.repository_of_gives given'
    have host := (hp.host_of_gives given).symm.trans (hq.host_of_gives given')
    exact ⟨host, path.symm.trans path', suffix.symm.trans suffix'⟩
  · rintro ⟨host, path, suffix⟩
    rw [← (Suffix.gives_iff hp.suffix).1 given, ← (Suffix.gives_iff hq.suffix).1 given', host, path,
      suffix]

end Parts.Spell

/--
**Rendered references are unambiguous.** Let two texts be read as the references `r` and `r'`. They
are rendered alike exactly when they are the same. That is the case when the texts are written with
the same host, the same repository and the same tag or digest, where a missing host is an empty one
and a missing tag is the latest one. A reference with a tag is never rendered as one with a digest
by `sha256`, and no rendered text is read again.
-/
theorem text_unambiguous {a b : String} {r r' : ImageReference} (ha : parse a = .ok r)
    (hb : parse b = .ok r') :
    (r.text = r'.text ↔ r = r') ∧
    (∃ p q : Parts, p.WrittenAs a ∧ q.WrittenAs b ∧
      (r = r' ↔ p.host.getD [] = q.host.getD [] ∧ p.path = q.path ∧
        p.suffix.completed = q.suffix.completed) ∧
      ∀ tag digits, p.suffix.completed = .tag tag →
        q.suffix = .digest ("sha256:".toList ++ digits) → r.text ≠ r'.text) ∧
    parse r.text = .error ⟨r.text, .schemeGiven⟩ := by
  obtain ⟨p, ⟨t, ht, hp⟩, given⟩ := parse_eq_ok_iff.1 ha
  obtain ⟨q, ⟨u, hu, hq⟩, given'⟩ := parse_eq_ok_iff.1 hb
  have hr := hp.renderable given
  have hinj := hp.gives_inj hq given given'
  have htext := hr.text_inj (hq.renderable given')
  refine ⟨htext, ⟨p, q, ⟨t, ht, hp⟩, ⟨u, hu, hq⟩, hinj, ?_⟩, hr.parse_text⟩
  intro tag digits tagged marked same
  obtain ⟨-, -, hcompleted⟩ := hinj.1 (htext.1 same)
  rw [tagged, marked] at hcompleted
  cases hcompleted

/-- An official image that is written in two ways, and a tag that looks like a digest. -/
theorem text_unambiguous_nginx :
    (parse "nginx" = .ok ⟨"", "library/nginx", "latest"⟩ ∧
      parse " /nginx:latest\n" = .ok ⟨"", "library/nginx", "latest"⟩ ∧
      ∃ p q : Parts, p.WrittenAs "nginx" ∧ q.WrittenAs " /nginx:latest\n" ∧
        p.host.getD [] = q.host.getD [] ∧ p.path = q.path ∧
        p.suffix.completed = q.suffix.completed) ∧
    parse "nginx:0af3" = .ok ⟨"", "library/nginx", "0af3"⟩ ∧
      parse "nginx@sha256:0af3" = .ok ⟨"", "library/nginx@sha256", "0af3"⟩ ∧
      text ⟨"", "library/nginx", "0af3"⟩ ≠ text ⟨"", "library/nginx@sha256", "0af3"⟩ ∧
      parse "docker:///library/nginx#0af3"
        = .error ⟨"docker:///library/nginx#0af3", .schemeGiven⟩ := by
  have bare : parse "nginx" = .ok ⟨"", "library/nginx", "latest"⟩ := by decide
  have complete : parse " /nginx:latest\n" = .ok ⟨"", "library/nginx", "latest"⟩ := by decide
  have tagged : parse "nginx:0af3" = .ok ⟨"", "library/nginx", "0af3"⟩ := by decide
  have digested : parse "nginx@sha256:0af3" = .ok ⟨"", "library/nginx@sha256", "0af3"⟩ := by decide
  obtain ⟨-, ⟨p, q, hp, hq, hparts, -⟩, -⟩ := text_unambiguous bare complete
  obtain ⟨htext, -, hagain⟩ := text_unambiguous tagged digested
  exact ⟨⟨bare, complete, p, q, hp, hq, hparts.1 rfl⟩, tagged, digested,
    fun same => absurd (htext.1 same) (by decide), hagain⟩

end CellRecipe.ImageReference
