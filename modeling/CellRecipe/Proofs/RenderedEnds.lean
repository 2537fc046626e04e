import CellRecipe.CommandLine.Arguments
import Mathlib.Data.List.Basic

/-!
# How rendered text ends

A terminal gets the text of a document without the blanks at its end and with one line feed instead;
a file gets the text as it is. Whether both are the same depends on the last characters alone. Here
it is found out which characters these are, for each format and whatever the document.

The text of JSON always ends in a bracket, a quote, a letter or a digit. That of YAML ends as the
scalar does that is written last. Such a scalar ends in a visible character if it is quoted or no
text at all; a plain scalar and a literal block end as the text itself does, so the blanks at its
end are those that the terminal would lose.

## Main definitions

* `Text.Tight`: characters that end in a visible one, apart from one line feed.
* `Text.withBreak`: a text with a line feed at its end.
* `Document.lastText?`: the text that is written last, if the last scalar is a text.
* `Yaml.Kept`: texts that lose nothing at their end.

## Main results

* `Text.trimEnd_eq_withBreak_iff`: when the blanks at the end do not matter.
* `Yaml.tight_textChars`: the ends of a text in each style.
* `Yaml.endsAs_value`: a value ends as its last scalar does.
* `OutputFormat.display_eq_withBreak_iff`: when a terminal shows what a file holds.
-/

namespace CellRecipe

/-! ## Ends of texts -/

namespace Text

/-- The characters without one line feed at their end. -/
def unbroken (cs : List Char) : List Char :=
  if cs.getLast? = some '\n' then cs.dropLast else cs

/-- Apart from one line feed, the characters end in one that is not blank. -/
def Tight (cs : List Char) : Prop := ∃ c ∈ (unbroken cs).getLast?, isBlank c = false

instance (cs : List Char) : Decidable (Tight cs) :=
  Option.decidableExistsMem (unbroken cs).getLast?

/-- The text with a line feed at its end, which is added if there is none. -/
def withBreak (s : String) : String := if s.toList.getLast? = some '\n' then s else s ++ "\n"

theorem unbroken_append (a : List Char) {b : List Char} (h : b ≠ []) :
    unbroken (a ++ b) = a ++ unbroken b := by
  unfold unbroken
  rw [List.getLast?_append_of_ne_nil a h]
  split
  · exact List.dropLast_append_of_ne_nil h
  · rfl

theorem unbroken_concat_feed (cs : List Char) : unbroken (cs ++ ['\n']) = cs := by
  simp [unbroken]

theorem unbroken_of_last {cs : List Char} {c : Char} (h : cs.getLast? = some c) (hc : c ≠ '\n') :
    unbroken cs = cs := by
  rw [unbroken, h, if_neg]
  simpa using hc

theorem Tight.unbroken_ne_nil {cs : List Char} (h : Tight cs) : unbroken cs ≠ [] := by
  obtain ⟨c, hc, -⟩ := h
  intro hnil
  rw [hnil] at hc
  exact absurd hc (by simp)

theorem unbroken_append_ne_nil {a b : List Char} (ha : a ≠ []) (hb : b ≠ []) :
    unbroken (a ++ b) ≠ [] := by
  rw [unbroken_append a hb]
  exact List.append_ne_nil_of_left_ne_nil ha _

/-- What comes before does not matter for the end. -/
theorem tight_append (a : List Char) {b : List Char} (h : unbroken b ≠ []) :
    Tight (a ++ b) ↔ Tight b := by
  have hb : b ≠ [] := by
    rintro rfl
    exact h rfl
  rw [Tight, Tight, unbroken_append a hb, List.getLast?_append_of_ne_nil a h]

theorem tight_of_last {cs : List Char} {c : Char} (h : cs.getLast? = some c)
    (visible : isBlank c = false) : Tight cs := by
  have hc : c ≠ '\n' := by
    rintro rfl
    exact absurd visible (by decide)
  refine ⟨c, ?_, visible⟩
  rw [unbroken_of_last h hc]
  exact h

theorem toList_withBreak (s : String) : (withBreak s).toList = unbroken s.toList ++ ['\n'] := by
  unfold withBreak unbroken
  split
  · next h => exact (List.dropLast_append_getLast? '\n' h).symm
  · rw [String.toList_append]
    rfl

theorem dropTrailingBlanks_unbroken (cs : List Char) :
    dropTrailingBlanks (unbroken cs) = dropTrailingBlanks cs := by
  unfold unbroken
  split
  · next h =>
    have hfeed : ∀ c ∈ ['\n'], isBlank c = true := List.forall_mem_singleton.2 (by decide)
    rw [← dropTrailingBlanks_append (a := cs.dropLast) hfeed, List.dropLast_append_getLast? '\n' h]
  · rfl

/-- One line feed in place of the blanks at the end changes nothing but to complete the last line,
exactly when there are no such blanks apart from one line feed. -/
theorem trimEnd_eq_withBreak_iff {s : String} (h : unbroken s.toList ≠ []) :
    trimEnd s ++ "\n" = withBreak s ↔ Tight s.toList := by
  have hchars : trimEnd s ++ "\n" = withBreak s ↔
      dropTrailingBlanks (unbroken s.toList) = unbroken s.toList := by
    rw [← String.toList_inj, toList_withBreak, String.toList_append, trimEnd, String.toList_ofList,
      dropTrailingBlanks_unbroken]
    exact List.append_left_inj _
  rw [hchars]
  constructor
  · intro heq
    obtain ⟨c, hc⟩ := Option.isSome_iff_exists.1 (List.getLast?_isSome.2 h)
    refine ⟨c, hc, ?_⟩
    rw [← heq] at hc
    exact getLast?_dropTrailingBlanks hc
  · intro htight
    obtain ⟨c, hc, hvisible⟩ := htight
    refine dropTrailingBlanks_of_last fun d hd => ?_
    have hsame : c = d := Option.some.inj (hc.symm.trans hd)
    rw [← hsame]
    exact hvisible

/-! ## Texts without blanks -/

/-- None of the characters is blank. -/
def Solid (cs : List Char) : Prop := ∀ c ∈ cs, isBlank c = false

instance (cs : List Char) : Decidable (Solid cs) :=
  List.decidableBAll (fun c => isBlank c = false) cs

theorem Solid.append {a b : List Char} (ha : Solid a) (hb : Solid b) : Solid (a ++ b) := by
  intro c hc
  rcases List.mem_append.1 hc with hc | hc
  · exact ha c hc
  · exact hb c hc

theorem Solid.last {cs : List Char} (h : Solid cs) (hne : cs ≠ []) :
    ∃ c, cs.getLast? = some c ∧ isBlank c = false := by
  obtain ⟨c, hc⟩ := Option.isSome_iff_exists.1 (List.getLast?_isSome.2 hne)
  exact ⟨c, hc, h c (List.mem_of_getLast? hc)⟩

theorem solid_repr (n : Nat) : Solid n.repr.toList := by
  intro c hc
  rw [Nat.toList_repr] at hc
  exact isBlank_of_isDigit (isDigit_of_mem_toDigits hc)

theorem repr_ne_nil (n : Nat) : n.repr.toList ≠ [] := by
  rw [Nat.toList_repr]
  exact Nat.toDigits_ne_nil

/-- The text of an integer ends in a visible character. -/
theorem last_toString_int (n : Int) :
    ∃ c, (toString n).toList.getLast? = some c ∧ isBlank c = false := by
  cases n with
  | ofNat n => exact (solid_repr n).last (repr_ne_nil n)
  | negSucc n =>
      have htext : toString (Int.negSucc n) = "-" ++ (n + 1).repr := rfl
      have hminus : Solid "-".toList := by decide
      rw [htext, String.toList_append]
      exact (hminus.append (solid_repr (n + 1))).last
        (List.append_ne_nil_of_right_ne_nil _ (repr_ne_nil (n + 1)))

end Text

open Text

/-! ## Doubles -/

namespace Decimal.Shortest

theorem solid_zeros (n : Nat) : Solid (zeros n).toList := by
  intro c hc
  rw [zeros, String.toList_ofList] at hc
  rw [List.eq_of_mem_replicate hc]
  decide

theorem solid_insertPoint {digits : String} (h : Solid digits.toList) (k : Nat) :
    Solid (insertPoint digits k).toList := by
  have hbefore : Solid (digits.toList.take k) := fun c hc => h c (List.mem_of_mem_take hc)
  have hafter : Solid (digits.toList.drop k) := fun c hc => h c (List.mem_of_mem_drop hc)
  have hpoint : Solid ".".toList := by decide
  simp only [insertPoint, String.toList_append, String.toList_ofList]
  exact (hbefore.append hpoint).append hafter

theorem solid_layOut {layout : Layout} (plus : Solid layout.plus.toList) (d : Scaled) :
    Solid (layOut layout d).toList := by
  have hdigits := solid_repr d.digits
  have hzero : Solid "0.".toList := by decide
  have hpoint : Solid ".0".toList := by decide
  have hexp : Solid "e".toList := by decide
  have hminus : Solid "-".toList := by decide
  dsimp only [layOut]
  split
  · split
    · rw [String.toList_append, String.toList_append]
      exact (hzero.append (solid_zeros _)).append hdigits
    · split
      · rw [String.toList_append, String.toList_append]
        exact (hdigits.append (solid_zeros _)).append hpoint
      · exact solid_insertPoint hdigits _
  · rw [String.toList_append, String.toList_append, String.toList_append]
    refine ((Solid.append ?_ hexp).append ?_).append (solid_repr _)
    · split
      · exact hdigits
      · exact solid_insertPoint hdigits 1
    · split
      · exact hminus
      · exact plus

theorem layOut_ne_nil (layout : Layout) (d : Scaled) : (layOut layout d).toList ≠ [] := by
  dsimp only [layOut]
  split
  · split
    · simp
    · split
      · simp
      · simp [insertPoint]
  · simp

/-- The text of a double ends in a visible character. -/
theorem last_render {layout : Layout} (plus : Solid layout.plus.toList) (d : Double) :
    ∃ c, (render layout d).toList.getLast? = some c ∧ isBlank c = false := by
  have hsign : Solid (if d.negative then "-" else "").toList := by cases d.negative <;> decide
  have hzero : Solid "0.0".toList := by decide
  rw [render, String.toList_append]
  refine Solid.last (hsign.append ?_) ?_
  · split
    · exact hzero
    · exact solid_layOut plus _
  · refine List.append_ne_nil_of_right_ne_nil _ ?_
    split
    · decide
    · exact layOut_ne_nil layout _

end Decimal.Shortest

/-! ## JSON -/

namespace Json

theorem last_numberText (k : Number) :
    ∃ c, k.text.toList.getLast? = some c ∧ isBlank c = false := by
  cases k with
  | whole n => exact last_toString_int n
  | real d => exact Decimal.Shortest.last_render (by decide) d

theorem last_bracketed (opening : String) (level : Nat) (entries : List String) {closing : String}
    {c : Char} (h : closing.toList = [c]) :
    (bracketed opening closing level entries).toList.getLast? = some c := by
  unfold bracketed
  split
  · rw [String.toList_append, h, List.getLast?_concat]
  · rw [String.toList_append, h, List.getLast?_concat]

/-- Indented text ends in a visible character, whatever the value. -/
theorem last_indentedAt (level : Nat) (j : Json) :
    ∃ c, (indentedAt level j).toList.getLast? = some c ∧ isBlank c = false := by
  cases j with
  | null =>
      refine ⟨'l', ?_, by decide⟩
      rw [indentedAt]
      decide
  | bool b =>
      refine ⟨'e', ?_, by decide⟩
      rw [indentedAt]
      cases b <;> decide
  | number k => exact last_numberText k
  | string s =>
      refine ⟨'\x22', ?_, by decide⟩
      rw [indentedAt, quoted, String.toList_append]
      exact List.getLast?_concat
  | array items => exact ⟨']', last_bracketed _ _ _ rfl, by decide⟩
  | object ms => exact ⟨'\x7d', last_bracketed _ _ _ rfl, by decide⟩

end Json

/-! ## Texts in YAML -/

namespace Yaml

/-- The text is written between quotes. -/
def Quoted (cs : List Char) : Prop := style cs = .singleQuoted ∨ style cs = .doubleQuoted

/-- The text loses nothing at its end: it stands between quotes, or it is tight. -/
def Kept (s : String) : Prop := Quoted s.toList ∨ Tight s.toList

theorem getLast?_blockLines (n : Nat) (afterBreak : Bool) (cs : List Char) :
    (blockLines n afterBreak cs).getLast? = cs.getLast? := by
  induction cs generalizing afterBreak with
  | nil => rfl
  | cons c rest ih =>
      rw [blockLines]
      split
      · rw [List.getLast?_cons, List.getLast?_cons, ih]
      · rw [List.getLast?_append_of_ne_nil _ (List.cons_ne_nil c _), List.getLast?_cons,
          List.getLast?_cons, ih]

theorem blockLines_concat_feed (n : Nat) (afterBreak : Bool) (cs : List Char) :
    blockLines n afterBreak (cs ++ ['\n']) = blockLines n afterBreak cs ++ ['\n'] := by
  induction cs generalizing afterBreak with
  | nil => rfl
  | cons c rest ih =>
      rw [List.cons_append, blockLines, blockLines]
      split
      · rw [ih, List.cons_append]
      · rw [ih, List.append_assoc, List.cons_append]

/-- A literal block ends as its text does; a text without a visible line ends in its header. -/
theorem tight_literal (n : Nat) {cs : List Char} (h : cs ≠ []) :
    Tight (literal n cs) ↔ Tight cs := by
  obtain ⟨c, hc⟩ := Option.isSome_iff_exists.1 (List.getLast?_isSome.2 h)
  let header := ['|'] ++ indentationHint cs ++ chomping cs
  have hliteral : literal n cs = header ++ ['\n'] ++ blockLines n true cs := rfl
  -- A line feed at the end does not count, so then the character before it decides.
  by_cases hfeed : c = '\n'
  · subst hfeed
    obtain ⟨before, hbefore⟩ := List.getLast?_eq_some_iff.1 hc
    have hblock : literal n cs = header ++ ['\n'] ++ blockLines n true before ++ ['\n'] := by
      rw [hliteral, List.append_assoc _ (blockLines n true before), ← blockLines_concat_feed,
        ← hbefore]
    have hlast : (header ++ ['\n'] ++ blockLines n true before).getLast?
        = before.getLast?.or (some '\n') := by
      rw [List.getLast?_append, getLast?_blockLines, List.getLast?_concat]
    unfold Tight
    rw [hblock, unbroken_concat_feed, hlast, hbefore, unbroken_concat_feed]
    cases before.getLast? with
    | none => simp [show Text.isBlank '\n' = true from by decide]
    | some d => simp
  · have hlast : (literal n cs).getLast? = some c := by
      rw [hliteral, List.getLast?_append, getLast?_blockLines, hc]
      rfl
    unfold Tight
    rw [unbroken_of_last hlast hfeed, unbroken_of_last hc hfeed, hlast, hc]

/-- A text between quotes ends in a quote, any other one as it is. -/
theorem tight_textChars (n : Nat) (cs : List Char) :
    Tight (textChars n cs) ↔ Quoted cs ∨ Tight cs := by
  unfold textChars Quoted
  cases hstyle : style cs with
  | plain => simp
  | singleQuoted =>
      have hquote : (singleQuoted n cs).getLast? = some '\'' := by
        rw [singleQuoted, List.getLast?_concat]
      simp [tight_of_last hquote (by decide)]
  | doubleQuoted =>
      have hquote : (doubleQuoted cs).getLast? = some '\x22' := by
        rw [doubleQuoted, List.getLast?_concat]
      simp [tight_of_last hquote (by decide)]
  | literal =>
      have hne : cs ≠ [] := by
        rintro rfl
        exact absurd hstyle (by decide)
      simp [tight_literal n hne]

/-- A text without blanks loses nothing, and neither does the text without characters. -/
theorem kept_of_solid {s : String} (h : Solid s.toList) : Kept s := by
  by_cases hnil : s.toList = []
  · refine .inl (.inl ?_)
    rw [hnil]
    decide
  · obtain ⟨c, hlast, hvisible⟩ := h.last hnil
    exact .inr (tight_of_last hlast hvisible)

/-- No text is written as nothing at all, or as a line feed alone. -/
theorem unbroken_textChars_ne_nil (n : Nat) (cs : List Char) : unbroken (textChars n cs) ≠ [] := by
  unfold textChars
  cases hstyle : style cs with
  | plain =>
      have hfeed : '\n' ∉ cs := by
        intro hmem
        have hcontains : cs.contains '\n' = true := by simpa using hmem
        simp only [style, hcontains, if_true] at hstyle
        split at hstyle <;> exact Style.noConfusion hstyle
      have hne : cs ≠ [] := by
        rintro rfl
        exact absurd hstyle (by decide)
      obtain ⟨c, hc⟩ := Option.isSome_iff_exists.1 (List.getLast?_isSome.2 hne)
      have hvisible : c ≠ '\n' := by
        rintro rfl
        exact hfeed (List.mem_of_getLast? hc)
      simpa [unbroken_of_last hc hvisible] using hne
  | singleQuoted => exact unbroken_append_ne_nil (by simp) (by simp)
  | doubleQuoted => exact unbroken_append_ne_nil (by simp) (by simp)
  | literal =>
      simp only [literal, List.append_assoc]
      exact unbroken_append_ne_nil (by simp) (by simp)

end Yaml

/-! ## The last scalar of a document -/

namespace Document

mutual

/-- The text that is written last, if the last scalar of the document is a text. -/
def lastText? : Document → Option String
  | .text s => some s
  | .list items => lastOfItems? items
  | .record ms => lastOfMembers? ms
  | .variant _ content => content.lastText?
  | _ => none

/-- The text that is written last in the last of the items. -/
def lastOfItems? : List Document → Option String
  | [] => none
  | [x] => x.lastText?
  | _ :: y :: rest => lastOfItems? (y :: rest)

/-- The text that is written last in the value of the last member. -/
def lastOfMembers? : List (String × Document) → Option String
  | [] => none
  | [m] => m.2.lastText?
  | _ :: m :: rest => lastOfMembers? (m :: rest)

end

theorem lastOfMembers?_append (before : List (String × Document))
    {ms : List (String × Document)} (h : ms ≠ []) :
    lastOfMembers? (before ++ ms) = lastOfMembers? ms := by
  induction before with
  | nil => rfl
  | cons b before ih =>
      obtain ⟨m, rest, hcons⟩ := List.exists_cons_of_ne_nil
        (List.append_ne_nil_of_right_ne_nil before h)
      rw [List.cons_append, hcons, lastOfMembers?, ← hcons, ih]

end Document

/-! ## Documents in YAML -/

namespace Yaml

/-- The characters end as a text does in its style, or in a visible character if there is none. -/
inductive EndsAs : Option String → List Char → Prop
  | text {s : String} {cs : List Char} (n : Nat) (before : List Char)
      (ending : cs = before ++ textChars n s.toList) : EndsAs (some s) cs
  | visible {cs : List Char} {c : Char} (last : cs.getLast? = some c)
      (notBlank : Text.isBlank c = false) : EndsAs none cs

/-- What comes before does not matter for the end. -/
theorem EndsAs.append {last : Option String} {cs : List Char} (h : EndsAs last cs)
    (before : List Char) : EndsAs last (before ++ cs) := by
  cases h with
  | text n more ending => exact .text n (before ++ more) (by rw [ending, List.append_assoc])
  | visible last notBlank =>
      refine .visible ?_ notBlank
      rw [List.getLast?_append, last]
      rfl

theorem EndsAs.lineAfter {last : Option String} {cs : List Char} (h : EndsAs last cs)
    (before : List Char) (n : Nat) : EndsAs last (lineAfter before n cs) :=
  h.append _

theorem EndsAs.tight_iff {last : Option String} {cs : List Char} (h : EndsAs last cs) :
    Tight cs ↔ ∀ s, last = some s → Kept s := by
  cases h with
  | @text s cs n before ending =>
      rw [ending, tight_append before (unbroken_textChars_ne_nil n s.toList), tight_textChars]
      simp [Kept]
  | visible last notBlank => simp [tight_of_last last notBlank]

theorem EndsAs.unbroken_ne_nil {last : Option String} {cs : List Char} (h : EndsAs last cs) :
    unbroken cs ≠ [] := by
  cases h with
  | @text s cs n before ending =>
      have htext := unbroken_textChars_ne_nil n s.toList
      have hne : textChars n s.toList ≠ [] := by
        intro hnil
        rw [hnil] at htext
        exact htext rfl
      rw [ending, unbroken_append before hne]
      exact List.append_ne_nil_of_right_ne_nil before htext
  | visible last notBlank => exact (tight_of_last last notBlank).unbroken_ne_nil

theorem last_numberText (k : Number) :
    ∃ c, (numberText k).toList.getLast? = some c ∧ Text.isBlank c = false := by
  cases k with
  | whole n => exact last_toString_int n
  | real d => exact Decimal.Shortest.last_render (by decide) d

mutual

/-- A value ends as its last scalar does. -/
theorem endsAs_value (p : Place) : (d : Document) → EndsAs d.lastText? (value p d)
  | .null => by
    rw [value]
    exact (EndsAs.visible (c := 'l') (by decide) (by decide)).append p.gap
  | .bool b => by
    rw [value]
    have hlast : (Json.boolText b).toList.getLast? = some 'e' := by cases b <;> decide
    exact (EndsAs.visible hlast (by decide)).append p.gap
  | .number k => by
    rw [value]
    obtain ⟨c, hlast, hvisible⟩ := last_numberText k
    exact (EndsAs.visible hlast hvisible).append p.gap
  | .text s => by
    rw [value, Document.lastText?]
    exact .text p.textIndent p.gap rfl
  | .list items => by
    rw [value, Document.lastText?]
    split
    · next hempty =>
      rw [List.isEmpty_iff.1 hempty, Document.lastOfItems?]
      exact (EndsAs.visible (c := ']') (by decide) (by decide)).append p.gap
    · next hitems =>
      exact (endsAs_items p.listIndent items fun hnil => hitems (by simp [hnil])).append _
  | .record ms => by
    rw [value, Document.lastText?]
    split
    · next hempty =>
      rw [List.isEmpty_iff.1 hempty, Document.lastOfMembers?]
      exact (EndsAs.visible (c := '\x7d') (by decide) (by decide)).append p.gap
    · next hms =>
      exact (endsAs_entries p.recordIndent ms fun hnil => hms (by simp [hnil])).append _
  | .variant name content => by
    rw [value, Document.lastText?]
    exact (endsAs_value p.afterTag content).append _

/-- A list ends as its last item does. -/
theorem endsAs_items (n : Nat) : (items : List Document) → items ≠ [] →
    EndsAs (Document.lastOfItems? items) (joinLines n (listItems n items))
  | [], h => absurd rfl h
  | [x], _ => by
    exact (endsAs_value (.afterMark n) x).append ['-', ' ']
  | _ :: y :: rest, _ => by
    exact (endsAs_items n (y :: rest) (List.cons_ne_nil y rest)).lineAfter _ n

/-- A record ends as the value of its last member does. -/
theorem endsAs_entries (n : Nat) : (ms : List (String × Document)) → ms ≠ [] →
    EndsAs (Document.lastOfMembers? ms) (joinLines n (recordEntries n ms))
  | [], h => absurd rfl h
  | [(k, v)], _ => by
    simp only [recordEntries, joinLines, Document.lastOfMembers?]
    split
    · exact (endsAs_value (.afterKey n) v).append _
    · exact ((endsAs_value (.afterMark n) v).append [':', ' ']).lineAfter _ n
  | _ :: m :: rest, _ => by
    exact (endsAs_entries n (m :: rest) (List.cons_ne_nil m rest)).lineAfter _ n

end

/-- The break after the last line, where it is missing, is a line feed. -/
theorem unbroken_lineAfter (cs : List Char) : unbroken (lineAfter cs 0 []) = unbroken cs := by
  have hline : lineAfter cs 0 [] = if endsWith isBreak cs then cs else cs ++ ['\n'] := by
    simp [lineAfter, spaces]
  rw [hline]
  split
  · rfl
  · next hbreak =>
    have hfeed : cs.getLast? ≠ some '\n' := by
      intro hlast
      rw [endsWith, hlast] at hbreak
      exact hbreak (by decide)
    rw [unbroken_concat_feed, unbroken, if_neg hfeed]

end Yaml

/-! ## Both formats -/

namespace OutputFormat

theorem tight_json (d : Document) : Tight (OutputFormat.json.render d).toList := by
  obtain ⟨c, hlast, hvisible⟩ := Json.last_indentedAt 0 d.toJson
  exact tight_of_last hlast hvisible

theorem unbroken_yaml (d : Document) :
    unbroken (OutputFormat.yaml.render d).toList = unbroken (Yaml.value .root d) := by
  rw [render, Yaml.render, String.toList_ofList, Yaml.unbroken_lineAfter]

theorem unbroken_render_ne_nil (format : OutputFormat) (d : Document) :
    unbroken (format.render d).toList ≠ [] := by
  cases format with
  | json => exact (tight_json d).unbroken_ne_nil
  | yaml =>
      rw [unbroken_yaml]
      exact (Yaml.endsAs_value .root d).unbroken_ne_nil

theorem tight_render_iff (format : OutputFormat) (d : Document) :
    Tight (format.render d).toList ↔
      format = .json ∨ ∀ s, d.lastText? = some s → Yaml.Kept s := by
  cases format with
  | json => simp [tight_json d]
  | yaml =>
      have hvalue : Tight (OutputFormat.yaml.render d).toList ↔ Tight (Yaml.value .root d) := by
        rw [Tight, Tight, unbroken_yaml]
      rw [hvalue, (Yaml.endsAs_value .root d).tight_iff]
      simp

/-- **What the terminal shows.** A document is shown as it would be in a file, apart from a last
line feed, exactly when its format is JSON or the text that is written last loses nothing at its
end. -/
theorem display_eq_withBreak_iff (format : OutputFormat) (d : Document) :
    format.display d = withBreak (format.render d) ↔
      format = .json ∨ ∀ s, d.lastText? = some s → Yaml.Kept s := by
  rw [display, trimEnd_eq_withBreak_iff (unbroken_render_ne_nil format d), tight_render_iff]

end OutputFormat

end CellRecipe
