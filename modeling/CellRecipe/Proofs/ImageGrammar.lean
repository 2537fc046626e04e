import CellRecipe.Image
import CellRecipe.Proofs.Outcome

/-!
# The grammar of image references

A reference is a host and a slash, a name, and a tag or a digest. The host may be anything without
a slash and is there exactly when the reference has a slash. The name is made of characters that
separate nothing, so whatever follows it starts at the first `:` or `@` behind the host, and no
reference can be read in two ways.

The reader cuts at the first slash, at the first `@` and at the last `:`. Each of these cuts can
fall in a wrong place (a `:` before the last slash, a second `:` or `@`), but then the part that is
left for the name holds a separator and is refused. So the reader accepts the grammar and nothing
else.

## Main definitions

* `ImageReference.Parts`: a reference as it is written.
* `ImageReference.Parts.Spell`: the parts spell a text by the grammar.
* `ImageReference.Parts.Gives`: the reference that the parts stand for.

## Main results

* `ImageReference.exists_parseChars_eq_ok`: the reader accepts what the grammar spells.
* `ImageReference.Parts.Spell.eq`: a text is spelled in one way.
* `ImageReference.parse_eq_ok_iff`: what is read stands for the parts of what is written.
* `ImageReference.parse_accepts_grammar`: the reader against the grammar.
-/

namespace CellRecipe.ImageReference

/-! ## Characters -/

/-- A character of a path. -/
def PathChar (c : Char) : Prop :=
  ('a' ≤ c ∧ c ≤ 'z') ∨ ('0' ≤ c ∧ c ≤ '9') ∨ c = '_' ∨ c = '-' ∨ c = '.' ∨ c = '/'

/-- A character of a tag. -/
def TagChar (c : Char) : Prop :=
  ('a' ≤ c ∧ c ≤ 'z') ∨ ('A' ≤ c ∧ c ≤ 'Z') ∨ ('0' ≤ c ∧ c ≤ '9') ∨ c = '_' ∨ c = '-' ∨ c = '.'

theorem isPathChar_iff {c : Char} : isPathChar c = true ↔ PathChar c := by
  simp [isPathChar, Text.isLower, Text.isDigit, PathChar, or_assoc]

/-- A digest may hold the two separators besides the characters of a tag. -/
theorem isTagChar_iff {c : Char} : isTagChar c = true ↔ TagChar c ∨ c = '@' ∨ c = ':' := by
  simp [isTagChar, Text.isLower, Text.isUpper, Text.isDigit, TagChar, or_assoc]

/-- A path holds neither of the separators that may stand behind it. -/
theorem not_pathChar : ¬ PathChar '@' ∧ ¬ PathChar ':' := by
  unfold PathChar
  decide

/-- A tag holds no separator at all. -/
theorem not_tagChar : ¬ TagChar '@' ∧ ¬ TagChar ':' ∧ ¬ TagChar '/' := by
  unfold TagChar
  decide

/-- A path of the length that a reference may have. -/
theorem isPath_iff {cs : List Char} :
    isPath cs = true ↔ 2 ≤ cs.length ∧ cs.length ≤ 255 ∧ ∀ c ∈ cs, PathChar c := by
  simp only [isPath, isRun, Bool.and_eq_true, decide_eq_true_eq, List.all_eq_true, isPathChar_iff,
    and_assoc]

theorem isTag_iff {cs : List Char} :
    isTag cs = true
      ↔ 1 ≤ cs.length ∧ cs.length ≤ 128 ∧ ∀ c ∈ cs, TagChar c ∨ c = '@' ∨ c = ':' := by
  simp only [isTag, isRun, Bool.and_eq_true, decide_eq_true_eq, List.all_eq_true, isTagChar_iff,
    and_assoc]

/-! ## The grammar -/

/-- What stands behind the name of an image. -/
inductive Suffix where
  | none
  | tag (cs : List Char)
  | digest (cs : List Char)

namespace Suffix

/-- The suffix with its separator. -/
def chars : Suffix → List Char
  | .none => []
  | .tag cs => ':' :: cs
  | .digest cs => '@' :: cs

/-- The suffixes of the grammar. -/
inductive Allowed : Suffix → Prop
  | none : Allowed .none
  | tag {cs : List Char} (nonempty : 1 ≤ cs.length) (short : cs.length ≤ 128)
      (each : ∀ c ∈ cs, TagChar c) : Allowed (.tag cs)
  | digest {cs : List Char} (short : cs.length ≤ 127)
      (each : ∀ c ∈ cs, TagChar c ∨ c = '@' ∨ c = ':') : Allowed (.digest cs)

/-- What the reader takes for the tag: the latest one if there is none, and a digest with its
separator. -/
def read : Suffix → List Char
  | .none => latest
  | .tag cs => cs
  | .digest cs => '@' :: cs

/-- The reference that a suffix makes of a host and a path. The mark of a digest by `sha256` goes
to the path, any other digest is a tag with its separator. -/
inductive Gives (host path : List Char) : Suffix → ImageReference → Prop
  | latest : Gives host path .none ⟨.ofList host, .ofList path, "latest"⟩
  | tag (cs : List Char) : Gives host path (.tag cs) ⟨.ofList host, .ofList path, .ofList cs⟩
  | sha256 (digits : List Char) :
      Gives host path (.digest ("sha256:".toList ++ digits))
        ⟨.ofList host, .ofList (path ++ "@sha256".toList), .ofList digits⟩
  | digest {cs : List Char} (unmarked : ¬ "sha256:".toList <+: cs) :
      Gives host path (.digest cs) ⟨.ofList host, .ofList path, .ofList ('@' :: cs)⟩

theorem chars_injective {s s' : Suffix} (h : s.chars = s'.chars) : s = s' := by
  cases s <;> cases s' <;> simp_all [chars]

theorem Allowed.isTag_read {s : Suffix} (h : s.Allowed) : isTag s.read = true := by
  cases h with
  | none => decide
  | tag nonempty short each =>
      exact isTag_iff.2 ⟨nonempty, short, fun c hc => .inl (each c hc)⟩
  | digest short each =>
      refine isTag_iff.2 ⟨Nat.succ_pos _, Nat.succ_le_succ short, ?_⟩
      exact List.forall_mem_cons.2 ⟨.inr (.inl rfl), each⟩

end Suffix

/-- A reference as it is written: the host, if there is one, the name and what stands behind it. -/
structure Parts where
  host : Option (List Char)
  name : List Char
  suffix : Suffix

namespace Parts

/-- The text of the parts. -/
def chars (p : Parts) : List Char :=
  match p.host with
  | some host => host ++ '/' :: (p.name ++ p.suffix.chars)
  | none => p.name ++ p.suffix.chars

/-- The path of the parts: an image without a namespace is official where no other registry is
named. -/
def path (p : Parts) : List Char :=
  if '/' ∉ p.name ∧ (p.host = none ∨ p.host = some [] ∨ p.host = some "docker.io".toList) then
    "library/".toList ++ p.name
  else p.name

/-- The parts spell a text by the grammar. -/
structure Spell (p : Parts) (t : List Char) : Prop where
  nonempty : t ≠ []
  plain : ¬ "://".toList <:+: t
  chars : t = p.chars
  host_iff : p.host.isSome = true ↔ '/' ∈ t
  host : ∀ host, p.host = some host → '/' ∉ host
  suffix : p.suffix.Allowed
  long : 2 ≤ p.path.length
  short : p.path.length ≤ 255
  each : ∀ c ∈ p.path, PathChar c

/-- The reference that the parts stand for. -/
def Gives (p : Parts) (r : ImageReference) : Prop := p.suffix.Gives (p.host.getD []) p.path r

/-- The namespace of official images goes before a name where the grammar says so. -/
theorem path_eq (p : Parts) : p.path = pathOf (p.host.getD []) p.name := by
  have hofficial : ((p.host.getD []).isEmpty || p.host.getD [] == officialRegistry) = true
      ↔ p.host = none ∨ p.host = some [] ∨ p.host = some "docker.io".toList := by
    cases p.host with
    | none => simp
    | some host =>
        rw [Option.getD_some, Bool.or_eq_true, List.isEmpty_iff, beq_iff_eq]
        simp only [Option.some.injEq, reduceCtorEq, false_or]
        rfl
  have hspaceless : (!p.name.contains '/') = true ↔ '/' ∉ p.name := by simp
  unfold path pathOf
  by_cases h : '/' ∉ p.name ∧
      (p.host = none ∨ p.host = some [] ∨ p.host = some "docker.io".toList)
  · rw [if_pos h, if_pos (Bool.and_eq_true_iff.2 ⟨hofficial.2 h.2, hspaceless.2 h.1⟩)]
    rfl
  · rw [if_neg h, if_neg]
    intro hboth
    obtain ⟨hhost, hname⟩ := Bool.and_eq_true_iff.1 hboth
    exact h ⟨hspaceless.1 hname, hofficial.1 hhost⟩

end Parts

/-- A path is made of the characters of its name and of its namespace. -/
theorem pathChar_of_mem_name {host name : List Char} (h : ∀ c ∈ pathOf host name, PathChar c) :
    ∀ c ∈ name, PathChar c := by
  intro c hc
  refine h c ?_
  unfold pathOf
  split
  · exact List.mem_append_right _ hc
  · exact hc

/-! ## The cuts of the reader -/

theorem splitHost_append {host : List Char} (h : '/' ∉ host) (rest : List Char) :
    splitHost (host ++ '/' :: rest) = (host, rest) := by
  rw [splitHost, Text.splitFirst_append h, Option.getD_some]

theorem splitHost_of_not_mem {cs : List Char} (h : '/' ∉ cs) : splitHost cs = ([], cs) := by
  rw [splitHost, Text.splitFirst_eq_none.2 h, Option.getD_none]

/-- Behind a name without separators, the reader finds the suffix. -/
theorem splitTag_append {name : List Char} (h : ∀ c ∈ name, PathChar c) {s : Suffix}
    (allowed : s.Allowed) : splitTag (name ++ s.chars) = (name, s.read) := by
  have hat : '@' ∉ name := fun hc => not_pathChar.1 (h _ hc)
  have hcolon : ':' ∉ name := fun hc => not_pathChar.2 (h _ hc)
  unfold splitTag
  cases allowed with
  | none =>
      rw [Suffix.chars, List.append_nil, Text.splitFirst_eq_none.2 hat,
        Text.splitLast_eq_none.2 hcolon]
      rfl
  | @tag cs nonempty short each =>
      obtain ⟨hat', hcolon', hslash'⟩ := not_tagChar
      have hcs : ∀ c, ¬ TagChar c → c ∉ cs := fun c hc hmem => hc (each c hmem)
      have hfirst : Text.splitFirst '@' (name ++ ':' :: cs) = none := by
        rw [Text.splitFirst_eq_none, List.mem_append, List.mem_cons]
        simp [hat, hcs '@' hat']
      have hlast : Text.splitLast ':' (name ++ ':' :: cs) = some (name, cs) :=
        Text.splitLast_eq_some_iff.2 ⟨rfl, hcs ':' hcolon'⟩
      have hslash : cs.contains '/' = false := by simpa using hcs '/' hslash'
      simp only [Suffix.chars, hfirst, hlast, hslash]
      rfl
  | digest short each =>
      simp only [Suffix.chars, Text.splitFirst_append hat]
      rfl

/-- What the reader cuts off behind a name without separators is a suffix. -/
theorem exists_suffix_of_splitTag {cs name tag : List Char} (h : splitTag cs = (name, tag))
    (hname : ∀ c ∈ name, PathChar c) (htag : isTag tag = true) :
    ∃ s : Suffix, s.Allowed ∧ cs = name ++ s.chars ∧ s.read = tag := by
  obtain ⟨hlong, hshort, heach⟩ := isTag_iff.1 htag
  unfold splitTag at h
  cases hfirst : Text.splitFirst '@' cs with
  | some p =>
      rw [hfirst] at h
      obtain ⟨rfl, rfl⟩ := Prod.mk.inj h
      obtain ⟨hcs, -⟩ := Text.splitFirst_eq_some_iff.1 hfirst
      refine ⟨.digest p.2, .digest (Nat.le_of_succ_le_succ hshort) ?_, hcs, rfl⟩
      exact (List.forall_mem_cons.1 heach).2
  | none =>
      have hat : '@' ∉ cs := Text.splitFirst_eq_none.1 hfirst
      cases hlast : Text.splitLast ':' cs with
      | none =>
          rw [hfirst, hlast] at h
          obtain ⟨rfl, rfl⟩ := Prod.mk.inj h
          exact ⟨.none, .none, (List.append_nil _).symm, rfl⟩
      | some p =>
          obtain ⟨hcs, hcolon⟩ := Text.splitLast_eq_some_iff.1 hlast
          simp only [hfirst, hlast] at h
          split at h
          · -- The last colon stands before a slash, so it is left to the name, which has none.
            obtain ⟨rfl, -⟩ := Prod.mk.inj h
            exact absurd (hname ':' (by rw [hcs]; simp)) not_pathChar.2
          · obtain ⟨rfl, rfl⟩ := Prod.mk.inj h
            refine ⟨.tag p.2, .tag hlong hshort ?_, hcs, rfl⟩
            intro c hc
            rcases heach c hc with hchar | rfl | rfl
            · exact hchar
            · exact absurd (by rw [hcs]; simp [hc]) hat
            · exact absurd hc hcolon

/-! ## The reader -/

/-- The reader accepts a text when it finds a path and a tag between its cuts. -/
theorem parseChars_eq_ok_iff_of_cuts {t host rest name tag : List Char} {r : ImageReference}
    (hhost : splitHost t = (host, rest)) (htag : splitTag rest = (name, tag)) :
    parseChars t = .ok r ↔ t ≠ [] ∧ ¬ "://".toList <:+: t ∧
      isPath (pathOf host name) = true ∧ isTag tag = true ∧
      ofParts host (pathOf host name) tag = r := by
  have hscheme : Text.hasScheme t = true ↔ "://".toList <:+: t := Text.hasScheme_iff
  rw [← hscheme]
  unfold parseChars
  rw [hhost]
  simp only [htag, List.isEmpty_iff]
  by_cases scheme : Text.hasScheme t = true
  · simp [scheme]
  · rw [if_neg scheme]
    by_cases empty : t = []
    · simp [empty]
    · cases hpath : isPath (pathOf host name) <;> cases hread : isTag tag <;>
        simp [scheme, empty]

/-- What is spelled by the grammar is cut into its parts. -/
theorem Parts.Spell.cuts {p : Parts} {t : List Char} (h : p.Spell t) :
    ∃ rest, splitHost t = (p.host.getD [], rest) ∧
      splitTag rest = (p.name, p.suffix.read) := by
  have hpath : ∀ c ∈ pathOf (p.host.getD []) p.name, PathChar c := by
    rw [← p.path_eq]
    exact h.each
  have hname := pathChar_of_mem_name hpath
  have htag := splitTag_append hname h.suffix
  cases hhost : p.host with
  | none =>
      have hchars : t = p.name ++ p.suffix.chars := by
        rw [h.chars, Parts.chars, hhost]
      have hslash : '/' ∉ t := by
        rw [← h.host_iff, hhost]
        simp
      exact ⟨t, splitHost_of_not_mem hslash, by rw [hchars, htag]⟩
  | some host =>
      have hchars : t = host ++ '/' :: (p.name ++ p.suffix.chars) := by
        rw [h.chars, Parts.chars, hhost]
      exact ⟨_, by rw [hchars, splitHost_append (h.host host hhost), Option.getD_some], htag⟩

/-- What the reader cuts into a path and a tag is spelled by the grammar. -/
theorem exists_spell_of_cuts {t host rest name tag : List Char}
    (hhost : splitHost t = (host, rest)) (htag : splitTag rest = (name, tag)) (nonempty : t ≠ [])
    (plain : ¬ "://".toList <:+: t) (path : isPath (pathOf host name) = true)
    (tagged : isTag tag = true) :
    ∃ p : Parts, p.Spell t ∧ p.host.getD [] = host ∧ p.name = name ∧ p.suffix.read = tag := by
  obtain ⟨hlong, hshort, heach⟩ := isPath_iff.1 path
  obtain ⟨s, allowed, rfl, hread⟩ :=
    exists_suffix_of_splitTag htag (pathChar_of_mem_name heach) tagged
  by_cases hslash : '/' ∈ t
  · obtain ⟨a, b, rfl, ha⟩ := List.eq_append_cons_of_mem hslash
    rw [splitHost_append ha] at hhost
    obtain ⟨rfl, rfl⟩ := Prod.mk.inj hhost
    have hpath : (Parts.mk (some a) name s).path = pathOf a name := Parts.path_eq _
    rw [← hpath] at hlong hshort heach
    refine ⟨⟨some a, name, s⟩, ?_, rfl, rfl, hread⟩
    exact ⟨nonempty, plain, rfl, by simp, by simpa using ha, allowed, hlong, hshort, heach⟩
  · rw [splitHost_of_not_mem hslash] at hhost
    obtain ⟨rfl, rfl⟩ := Prod.mk.inj hhost
    have hpath : (Parts.mk none name s).path = pathOf [] name := Parts.path_eq _
    rw [← hpath] at hlong hshort heach
    refine ⟨⟨none, name, s⟩, ?_, rfl, rfl, hread⟩
    exact ⟨nonempty, plain, rfl, by simpa using hslash, by simp, allowed, hlong, hshort, heach⟩

/-- What the reader answers to what is spelled by the grammar. -/
theorem Parts.Spell.parseChars_eq {p : Parts} {t : List Char} (h : p.Spell t) :
    parseChars t = .ok (ofParts (p.host.getD []) p.path p.suffix.read) := by
  obtain ⟨rest, hhost, htag⟩ := h.cuts
  rw [parseChars_eq_ok_iff_of_cuts hhost htag, ← p.path_eq]
  exact ⟨h.nonempty, h.plain, isPath_iff.2 ⟨h.long, h.short, h.each⟩, h.suffix.isTag_read, rfl⟩

/-- The reader accepts what is spelled by the grammar, and nothing else. -/
theorem exists_parseChars_eq_ok {t : List Char} :
    (∃ r, parseChars t = .ok r) ↔ ∃ p : Parts, p.Spell t := by
  constructor
  · intro hx
    obtain ⟨r, h⟩ := hx
    obtain ⟨nonempty, plain, path, tagged, -⟩ := (parseChars_eq_ok_iff_of_cuts rfl rfl).1 h
    obtain ⟨p, hp, -⟩ := exists_spell_of_cuts rfl rfl nonempty plain path tagged
    exact ⟨p, hp⟩
  · intro hx
    obtain ⟨p, hp⟩ := hx
    exact ⟨_, hp.parseChars_eq⟩

/-- A text is spelled in one way: its slash tells whether there is a host, and the cuts tell where
the parts are. -/
theorem Parts.Spell.eq {p q : Parts} {t : List Char} (hp : p.Spell t) (hq : q.Spell t) :
    p = q := by
  obtain ⟨rest, hhost, htag⟩ := hp.cuts
  obtain ⟨rest', hhost', htag'⟩ := hq.cuts
  obtain ⟨hgetD, rfl⟩ := Prod.mk.inj (hhost.symm.trans hhost')
  obtain ⟨hname, -⟩ := Prod.mk.inj (htag.symm.trans htag')
  have hsome : p.host.isSome = q.host.isSome := by
    rw [Bool.eq_iff_iff, hp.host_iff, hq.host_iff]
  have hhosts : p.host = q.host := by
    cases hph : p.host <;> cases hqh : q.host <;> simp_all
  have hchars : p.chars = q.chars := hp.chars.symm.trans hq.chars
  have hsuffix : p.suffix = q.suffix := by
    apply Suffix.chars_injective
    unfold Parts.chars at hchars
    rw [hhosts, hname] at hchars
    cases hqh : q.host with
    | none =>
        rw [hqh] at hchars
        exact List.append_cancel_left hchars
    | some host =>
        rw [hqh] at hchars
        exact List.append_cancel_left (List.cons.inj (List.append_cancel_left hchars)).2
  cases p
  cases q
  simp_all

/-! ## What is read -/

/-- A tag of the reader that is no marked digest stays as it is. -/
theorem ofParts_of_not_prefix {tag : List Char} (unmarked : ¬ "@sha256:".toList <+: tag)
    (host path : List Char) :
    ofParts host path tag = ⟨.ofList host, .ofList path, .ofList tag⟩ := by
  have hmark : ¬ digestMark.isPrefixOf tag = true := by
    rw [List.isPrefixOf_iff_prefix]
    exact unmarked
  rw [ofParts, if_neg hmark]

/-- The mark of a digest goes to the path. -/
theorem ofParts_of_prefix (host path digits : List Char) :
    ofParts host path ("@sha256:".toList ++ digits)
      = ⟨.ofList host, .ofList (path ++ "@sha256".toList), .ofList digits⟩ := by
  have hmark : digestMark.isPrefixOf ("@sha256:".toList ++ digits) = true := by
    rw [List.isPrefixOf_iff_prefix]
    exact List.prefix_append _ _
  rw [ofParts, if_pos hmark]
  rfl

/-- The reference of a suffix is the one of the reader. -/
theorem Suffix.gives_iff {s : Suffix} (allowed : s.Allowed) {host path : List Char}
    {r : ImageReference} : s.Gives host path r ↔ ofParts host path s.read = r := by
  cases allowed with
  | none =>
      have unmarked : ¬ "@sha256:".toList <+: latest := by decide
      rw [read, ofParts_of_not_prefix unmarked]
      constructor
      · intro h
        cases h
        rfl
      · rintro rfl
        exact .latest
  | @tag cs nonempty short each =>
      -- A tag has no separator in it, so it does not start with the mark.
      have unmarked : ¬ "@sha256:".toList <+: cs := by
        rintro ⟨digits, rfl⟩
        exact not_tagChar.1 (each '@' List.mem_cons_self)
      rw [read, ofParts_of_not_prefix unmarked]
      constructor
      · intro h
        cases h
        rfl
      · rintro rfl
        exact .tag cs
  | @digest cs short each =>
      by_cases marked : "sha256:".toList <+: cs
      · obtain ⟨digits, rfl⟩ := marked
        have hread : read (.digest ("sha256:".toList ++ digits))
            = "@sha256:".toList ++ digits := rfl
        rw [hread, ofParts_of_prefix]
        constructor
        · intro h
          cases h with
          | sha256 digits => rfl
          | digest unmarked => exact absurd (List.prefix_append _ _) unmarked
        · rintro rfl
          exact .sha256 digits
      · have unmarked : ¬ "@sha256:".toList <+: '@' :: cs := by
          rintro ⟨digits, h⟩
          exact marked ⟨digits, (List.cons.inj h).2⟩
        rw [read, ofParts_of_not_prefix unmarked]
        constructor
        · intro h
          cases h with
          | sha256 digits => exact absurd (List.prefix_append _ _) marked
          | digest _ => rfl
        · rintro rfl
          exact .digest marked

/-- The parts are written as a text: the grammar spells it from them, blanks around it apart. -/
def Parts.WrittenAs (p : Parts) (raw : String) : Prop :=
  ∃ t, Text.Stripped raw.toList t ∧ p.Spell t

/-- The reader answers with the reference that the parts of a text stand for. -/
theorem parse_eq_ok_iff {raw : String} {r : ImageReference} :
    parse raw = .ok r ↔ ∃ p : Parts, p.WrittenAs raw ∧ p.Gives r := by
  have hparse : parse raw = .ok r ↔ parseChars (Text.trimChars raw.toList) = .ok r :=
    Outcome.mapError_eq_ok
  rw [hparse]
  constructor
  · intro h
    obtain ⟨p, hp⟩ := exists_parseChars_eq_ok.1 ⟨r, h⟩
    rw [hp.parseChars_eq] at h
    have gives : p.Gives r := (Suffix.gives_iff hp.suffix).2 (Except.ok.inj h)
    exact ⟨p, ⟨_, Text.stripped_trimChars raw.toList, hp⟩, gives⟩
  · rintro ⟨p, ⟨t, stripped, hp⟩, gives⟩
    obtain rfl := Text.stripped_iff.1 stripped
    rw [hp.parseChars_eq, (Suffix.gives_iff hp.suffix).1 gives]

/-- **The reader and the grammar of image references.** Let `t` be a text without the blank
characters at its ends. The reader accepts the text exactly when some parts spell `t` by the
grammar. There are no others that spell it, and the answer is the reference that they stand for. -/
theorem parse_accepts_grammar (raw : String) : ∃ t, Text.Stripped raw.toList t ∧
    ((∃ r, parse raw = .ok r) ↔ ∃ p : Parts, p.Spell t) ∧
    (∀ p q : Parts, p.Spell t → q.Spell t → p = q) ∧
    (∀ (p : Parts) (r : ImageReference), p.Spell t → (parse raw = .ok r ↔ p.Gives r)) ∧
    scheme = "docker" := by
  have hparse : ∀ r, parse raw = .ok r ↔ parseChars (Text.trimChars raw.toList) = .ok r :=
    fun r => Outcome.mapError_eq_ok
  refine ⟨_, Text.stripped_trimChars raw.toList, ?_, fun p q => Parts.Spell.eq, ?_, rfl⟩
  · simp only [hparse]
    exact exists_parseChars_eq_ok
  · intro p r hp
    rw [hparse, hp.parseChars_eq, Parts.Gives, Suffix.gives_iff hp.suffix, Except.ok.injEq]

/-- An image by its digest, in a registry with a port. -/
def byDigest : Parts :=
  ⟨some "localhost:5000".toList, "team/app".toList, .digest "sha256:0af3".toList⟩

/-- The reader of a text with blanks around a digest. -/
theorem parse_accepts_grammar_byDigest :
    byDigest.Spell byDigest.chars ∧ (∀ q : Parts, q.Spell byDigest.chars → byDigest = q) ∧
      byDigest.Gives ⟨"localhost:5000", "team/app@sha256", "0af3"⟩ ∧
      parse " localhost:5000/team/app@sha256:0af3\n"
        = .ok ⟨"localhost:5000", "team/app@sha256", "0af3"⟩ := by
  have hdigest : isTag "sha256:0af3".toList = true := by decide
  have hpath : isPath byDigest.path = true := by decide
  obtain ⟨-, -, digest⟩ := isTag_iff.1 hdigest
  obtain ⟨long, short, each⟩ := isPath_iff.1 hpath
  have hspell : byDigest.Spell byDigest.chars :=
    { nonempty := by decide
      plain := fun h => absurd (Text.hasScheme_iff.2 h) (by decide)
      chars := rfl
      host_iff := by decide
      host := by
        rintro host ⟨⟩
        decide
      suffix := .digest (by decide) digest
      long := long
      short := short
      each := each }
  have hmarked : String.ofList ("team/app".toList ++ "@sha256".toList) = "team/app@sha256" := by
    decide
  have hgives : byDigest.Gives ⟨"localhost:5000", "team/app@sha256", "0af3"⟩ := by
    have h := @Suffix.Gives.sha256 "localhost:5000".toList "team/app".toList "0af3".toList
    rw [hmarked, String.ofList_toList, String.ofList_toList] at h
    exact h
  obtain ⟨t, ht, -, hunique, hread, -⟩ :=
    parse_accepts_grammar " localhost:5000/team/app@sha256:0af3\n"
  have hstripped : Text.trimChars " localhost:5000/team/app@sha256:0af3\n".toList
      = byDigest.chars := by decide
  obtain rfl : byDigest.chars = t := hstripped.symm.trans (Text.stripped_iff.1 ht)
  exact ⟨hspell, fun q hq => hunique _ _ hspell hq, hgives, (hread _ _ hspell).2 hgives⟩

end CellRecipe.ImageReference
