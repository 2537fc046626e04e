import CellRecipe.Failure

/-!
# Reasons by precedence

A text may end in an exit code and start with a phrase at once, so the order of the tables decides:
exit codes come before phrases, and phrases before whole messages. Within a table no order is
needed. No exit code ends in another one, no phrase starts with another one and no message is listed
twice, so at most one row of a table applies to a text, and its place among the rows does not
matter. The reason is said by what the tables list, without a search.

A text is passed on when it is recognised by its start or as a whole and ends in no exit code.
Otherwise the message is a fixed one, which no table knows. So a reason's own message is either
passed on again or fixed again, and a second look does not change it.

## Main definitions

* `Failure.Exclusive`: at most one row of a table applies to a text.
* `Failure.Ruled`: the reason that tables give for a text, whatever the order of their rows.
* `Failure.PassedOn`: the texts that stand in their own reason.

## Main results

* `Failure.exclusive_exitCodes`, `Failure.exclusive_phrases`, `Failure.exclusive_messages`: the
  tables leave no choice.
* `Failure.ruled_classifyBy`, `Failure.classifyBy_perm`: a search through tables, and through others
  with the same rows.
* `Failure.classify_eq_iff`: the reason of a text without a search.
* `Failure.classify_by_precedence`: the reason of a text.
-/

namespace CellRecipe.Failure

/-! ## Rows that apply -/

/-- The text ends in the exit code of the row. -/
def Row.Ends (row : Row) (text : String) : Prop := row.1.toList <:+ text.toList

/-- The text starts with the phrase of the row. -/
def Row.Starts (row : Row) (text : String) : Prop := row.1.toList <+: text.toList

/-- The text is the message of the row. -/
def Row.Is (row : Row) (text : String) : Prop := text = row.1

instance (row : Row) (text : String) : Decidable (row.Ends text) :=
  inferInstanceAs (Decidable (_ <:+ _))

instance (row : Row) (text : String) : Decidable (row.Starts text) :=
  inferInstanceAs (Decidable (_ <+: _))

instance (row : Row) (text : String) : Decidable (row.Is text) :=
  inferInstanceAs (Decidable (_ = _))

theorem endsIn_iff {row : Row} {text : String} : endsIn text row.1 = true ↔ row.Ends text :=
  List.isSuffixOf_iff_suffix

theorem startsWith_iff {row : Row} {text : String} :
    startsWith text row.1 = true ↔ row.Starts text :=
  List.isPrefixOf_iff_prefix

theorem isMessage_iff {row : Row} {text : String} : (text == row.1) = true ↔ row.Is text :=
  beq_iff_eq

/-- At most one row of a table applies to a text. -/
def Exclusive (applies : Row → String → Prop) (rows : List Row) : Prop :=
  ∀ text, ∀ row ∈ rows, ∀ other ∈ rows, applies row text → applies other text → row = other

/-- Where rows that apply to one text are related, a table whose rows are not leaves no choice. -/
theorem Exclusive.of_related {applies : Row → String → Prop} {rows : List Row}
    {related : Row → Row → Prop}
    (common : ∀ row other text, applies row text → applies other text →
      related row other ∨ related other row)
    (apart : ∀ row ∈ rows, ∀ other ∈ rows, related row other → row = other) :
    Exclusive applies rows := by
  intro text row hrow other hother happlies happlies'
  rcases common row other text happlies happlies' with h | h
  · exact apart row hrow other hother h
  · exact (apart other hother row hrow h).symm

/-- Of two exit codes in which a text ends one ends in the other. -/
theorem exclusive_exitCodes : Exclusive Row.Ends exitCodes := by
  have apart : ∀ row ∈ exitCodes, ∀ other ∈ exitCodes,
      row.1.toList <:+ other.1.toList → row = other := by decide
  exact .of_related (fun _ _ _ => List.suffix_or_suffix_of_suffix) apart

/-- Of two phrases with which a text starts one starts with the other. -/
theorem exclusive_phrases : Exclusive Row.Starts phrases := by
  have apart : ∀ row ∈ phrases, ∀ other ∈ phrases,
      row.1.toList <+: other.1.toList → row = other := by decide
  exact .of_related (fun _ _ _ => List.prefix_or_prefix_of_prefix) apart

theorem exclusive_messages : Exclusive Row.Is messages := by
  have apart : ∀ row ∈ messages, ∀ other ∈ messages, row.1 = other.1 → row = other := by decide
  exact .of_related (fun _ _ _ whole whole' => .inl (whole.symm.trans whole')) apart

variable {applies : Row → String → Prop} {rows : List Row} {test : Row → Bool} {text : String}

theorem mem_of_find?_eq_some (htest : ∀ row, test row = true ↔ applies row text) {row : Row}
    (found : rows.find? test = some row) : row ∈ rows ∧ applies row text :=
  ⟨List.mem_of_find?_eq_some found, (htest row).1 (List.find?_some found)⟩

theorem find?_eq_none_iff (htest : ∀ row, test row = true ↔ applies row text) :
    rows.find? test = none ↔ ∀ row ∈ rows, ¬ applies row text := by
  simp only [List.find?_eq_none, htest]

/-! ## The reason of a text -/

/-- The reason that tables give for a text. Only what the tables list counts, not in which order. -/
inductive Ruled (exitCodes phrases messages : List Row) (text : String) : Reason → Prop
  | exitCode {row : Row} (listed : row ∈ exitCodes) (ends : row.Ends text) :
      Ruled exitCodes phrases messages text ⟨row.2, stagingFailed⟩
  | phrase {row : Row} (noCode : ∀ row ∈ exitCodes, ¬ row.Ends text) (listed : row ∈ phrases)
      (starts : row.Starts text) : Ruled exitCodes phrases messages text ⟨row.2, text⟩
  | message {row : Row} (noCode : ∀ row ∈ exitCodes, ¬ row.Ends text)
      (noPhrase : ∀ row ∈ phrases, ¬ row.Starts text) (listed : row ∈ messages)
      (whole : row.Is text) : Ruled exitCodes phrases messages text ⟨row.2, text⟩
  | unknown (noCode : ∀ row ∈ exitCodes, ¬ row.Ends text)
      (noPhrase : ∀ row ∈ phrases, ¬ row.Starts text)
      (noMessage : ∀ row ∈ messages, ¬ row.Is text) :
      Ruled exitCodes phrases messages text ⟨.staging, stagingFailed⟩

section Tables

variable {codes codes' starts starts' wholes wholes' : List Row} {text : String} {reason : Reason}

theorem Ruled.perm (hcodes : codes'.Perm codes) (hstarts : starts'.Perm starts)
    (hwholes : wholes'.Perm wholes) (h : Ruled codes starts wholes text reason) :
    Ruled codes' starts' wholes' text reason := by
  have noCode (none : ∀ row ∈ codes, ¬ row.Ends text) : ∀ row ∈ codes', ¬ row.Ends text :=
    fun row hrow => none row (hcodes.mem_iff.1 hrow)
  have noPhrase (none : ∀ row ∈ starts, ¬ row.Starts text) : ∀ row ∈ starts', ¬ row.Starts text :=
    fun row hrow => none row (hstarts.mem_iff.1 hrow)
  cases h with
  | exitCode listed ends => exact .exitCode (hcodes.mem_iff.2 listed) ends
  | phrase none listed starts => exact .phrase (noCode none) (hstarts.mem_iff.2 listed) starts
  | message none none' listed whole =>
      exact .message (noCode none) (noPhrase none') (hwholes.mem_iff.2 listed) whole
  | unknown none none' noMessage =>
      exact .unknown (noCode none) (noPhrase none')
        fun row hrow => noMessage row (hwholes.mem_iff.1 hrow)

/-- Every text has a reason by the tables: the one that a search through them finds. -/
theorem ruled_classifyBy (codes starts wholes : List Row) (text : String) :
    Ruled codes starts wholes text (classifyBy codes starts wholes text) := by
  unfold classifyBy
  cases hcode : codes.find? fun row => endsIn text row.1 with
  | some row =>
      obtain ⟨listed, ends⟩ := mem_of_find?_eq_some (fun _ => endsIn_iff) hcode
      exact .exitCode listed ends
  | none =>
      have noCode := (find?_eq_none_iff fun _ => endsIn_iff).1 hcode
      cases hphrase : starts.find? fun row => startsWith text row.1 with
      | some row =>
          obtain ⟨listed, starts⟩ := mem_of_find?_eq_some (fun _ => startsWith_iff) hphrase
          exact .phrase noCode listed starts
      | none =>
          have noPhrase := (find?_eq_none_iff fun _ => startsWith_iff).1 hphrase
          cases hmessage : wholes.find? fun row => text == row.1 with
          | some row =>
              obtain ⟨listed, whole⟩ := mem_of_find?_eq_some (fun _ => isMessage_iff) hmessage
              exact .message noCode noPhrase listed whole
          | none =>
              have noMessage := (find?_eq_none_iff fun _ => isMessage_iff).1 hmessage
              exact .unknown noCode noPhrase noMessage

/-- Tables that leave no choice give one reason: two rows of a table are one row, and a table is
only asked when those before it have no answer. -/
theorem Ruled.eq (hcodes : Exclusive Row.Ends codes) (hstarts : Exclusive Row.Starts starts)
    (hwholes : Exclusive Row.Is wholes) {other : Reason}
    (h : Ruled codes starts wholes text reason) (h' : Ruled codes starts wholes text other) :
    reason = other := by
  cases h with
  | exitCode listed ends =>
      cases h' with
      | exitCode listed' ends' => rw [hcodes text _ listed _ listed' ends ends']
      | phrase noCode => exact absurd ends (noCode _ listed)
      | message noCode => exact absurd ends (noCode _ listed)
      | unknown noCode => exact absurd ends (noCode _ listed)
  | phrase noCode listed begins =>
      cases h' with
      | exitCode listed' ends' => exact absurd ends' (noCode _ listed')
      | phrase _ listed' begins' => rw [hstarts text _ listed _ listed' begins begins']
      | message _ noPhrase => exact absurd begins (noPhrase _ listed)
      | unknown _ noPhrase => exact absurd begins (noPhrase _ listed)
  | message noCode noPhrase listed whole =>
      cases h' with
      | exitCode listed' ends' => exact absurd ends' (noCode _ listed')
      | phrase _ listed' begins' => exact absurd begins' (noPhrase _ listed')
      | message _ _ listed' whole' => rw [hwholes text _ listed _ listed' whole whole']
      | unknown _ _ noMessage => exact absurd whole (noMessage _ listed)
  | unknown noCode noPhrase noMessage =>
      cases h' with
      | exitCode listed' ends' => exact absurd ends' (noCode _ listed')
      | phrase _ listed' begins' => exact absurd begins' (noPhrase _ listed')
      | message _ _ listed' whole' => exact absurd whole' (noMessage _ listed')
      | unknown => rfl

/-- Where tables leave no choice, a search through them may take their rows in any order. -/
theorem classifyBy_perm (hcodes : Exclusive Row.Ends codes) (hstarts : Exclusive Row.Starts starts)
    (hwholes : Exclusive Row.Is wholes) (codesPerm : codes'.Perm codes)
    (startsPerm : starts'.Perm starts) (wholesPerm : wholes'.Perm wholes) (text : String) :
    classifyBy codes' starts' wholes' text = classifyBy codes starts wholes text := by
  have h := ruled_classifyBy codes' starts' wholes' text
  have h' := h.perm codesPerm.symm startsPerm.symm wholesPerm.symm
  exact h'.eq hcodes hstarts hwholes (ruled_classifyBy codes starts wholes text)

end Tables

variable {text : String}

theorem ruled_classify (text : String) :
    Ruled exitCodes phrases messages text (classify text) :=
  ruled_classifyBy exitCodes phrases messages text

theorem classify_eq_iff {reason : Reason} :
    classify text = reason ↔ Ruled exitCodes phrases messages text reason := by
  constructor
  · rintro rfl
    exact ruled_classify text
  · intro h
    exact (ruled_classify text).eq exclusive_exitCodes exclusive_phrases exclusive_messages h

/-! ## The message of a reason -/

/-- The text is recognised by its start or as a whole, and it ends in no exit code. -/
def PassedOn (text : String) : Prop :=
  (∀ row ∈ exitCodes, ¬ row.Ends text) ∧
    ((∃ row ∈ phrases, row.Starts text) ∨ ∃ row ∈ messages, row.Is text)

instance (text : String) : Decidable (PassedOn text) := inferInstanceAs (Decidable (_ ∧ _))

theorem Ruled.message_of_passedOn {reason : Reason}
    (h : Ruled exitCodes phrases messages text reason) (passed : PassedOn text) :
    reason.message = text := by
  obtain ⟨noCode, known⟩ := passed
  cases h with
  | exitCode listed ends => exact absurd ends (noCode _ listed)
  | phrase => rfl
  | message => rfl
  | unknown _ noPhrase noMessage =>
      rcases known with ⟨row, listed, starts⟩ | ⟨row, listed, whole⟩
      · exact absurd starts (noPhrase row listed)
      · exact absurd whole (noMessage row listed)

theorem Ruled.message_of_not_passedOn {reason : Reason}
    (h : Ruled exitCodes phrases messages text reason) (notPassed : ¬ PassedOn text) :
    reason.message = stagingFailed := by
  cases h with
  | exitCode => rfl
  | phrase noCode listed starts => exact absurd ⟨noCode, .inl ⟨_, listed, starts⟩⟩ notPassed
  | message noCode _ listed whole => exact absurd ⟨noCode, .inr ⟨_, listed, whole⟩⟩ notPassed
  | unknown => rfl

/-- The fixed message is in no table. -/
theorem classify_stagingFailed : classify stagingFailed = ⟨.staging, stagingFailed⟩ := by decide

/-- **Reasons by precedence.** The order of the rows in a table does not matter, since at most one
of them applies to a text. The reason is that of the exit code in which the text ends, or else of
the phrase with which it starts, or else of the message that it is. It has the text as its message
when the text is recognised by its start or as a whole and ends in no exit code, and a fixed message
otherwise. Such a message is not changed by another look at it, and one that was passed on gives the
same reason again. -/
theorem classify_by_precedence {codes starts wholes : List Row} (hcodes : codes.Perm exitCodes)
    (hstarts : starts.Perm phrases) (hwholes : wholes.Perm messages) (text : String) :
    classifyBy codes starts wholes text = classify text ∧
    (∀ reason, classify text = reason ↔ Ruled exitCodes phrases messages text reason) ∧
    (∀ row ∈ exitCodes, ∀ other ∈ exitCodes, row.Ends text → other.Ends text → row = other) ∧
    (∀ row ∈ phrases, ∀ other ∈ phrases, row.Starts text → other.Starts text → row = other) ∧
    (∀ row ∈ messages, ∀ other ∈ messages, row.Is text → other.Is text → row = other) ∧
    (PassedOn text → (classify text).message = text ∧
      classify (classify text).message = classify text) ∧
    (¬ PassedOn text → (classify text).message = "staging failed") ∧
    ((classify text).message = text ↔ PassedOn text ∨ text = "staging failed") ∧
    (classify (classify text).message).message = (classify text).message := by
  have order := classifyBy_perm exclusive_exitCodes exclusive_phrases exclusive_messages
    hcodes hstarts hwholes text
  have ruled := ruled_classify text
  refine ⟨order, fun _ => classify_eq_iff, exclusive_exitCodes text, exclusive_phrases text,
    exclusive_messages text, ?_, ruled.message_of_not_passedOn, ?_, ?_⟩
  · intro passed
    have kept := ruled.message_of_passedOn passed
    exact ⟨kept, congrArg classify kept⟩
  · by_cases passed : PassedOn text
    · simp only [passed, true_or, iff_true]
      exact ruled.message_of_passedOn passed
    · rw [ruled.message_of_not_passedOn passed]
      simp only [passed, false_or]
      exact eq_comm
  · by_cases passed : PassedOn text
    · have kept := ruled.message_of_passedOn passed
      exact congrArg (fun message => (classify message).message) kept
    · rw [ruled.message_of_not_passedOn passed, classify_stagingFailed]

/-- Tables from behind, a text that an exit code and a phrase recognise, and one that is passed
on. -/
theorem classify_by_precedence_reversed :
    (exitCodes.reverse.Perm exitCodes ∧ phrases.reverse.Perm phrases ∧
      messages.reverse.Perm messages) ∧
    classifyBy exitCodes.reverse phrases.reverse messages.reverse "insufficient resources: 222"
      = ⟨.buildpackDetect, "staging failed"⟩ ∧
    ¬ PassedOn "insufficient resources: 222" ∧
    PassedOn "found no compatible cell for rootfs" ∧
    classify (classify "found no compatible cell for rootfs").message
      = ⟨.noCompatibleCell, "found no compatible cell for rootfs"⟩ := by
  have hcodes : exitCodes.reverse.Perm exitCodes := List.reverse_perm exitCodes
  have hphrases : phrases.reverse.Perm phrases := List.reverse_perm phrases
  have hmessages : messages.reverse.Perm messages := List.reverse_perm messages
  have coded : ("222", .buildpackDetect) ∈ exitCodes := by decide
  have ends : Row.Ends ("222", .buildpackDetect) "insufficient resources: 222" := by decide
  have starts : Row.Starts ("found no compatible cell", .noCompatibleCell)
    "found no compatible cell for rootfs" := by decide
  have passed : PassedOn "found no compatible cell for rootfs" := by decide
  obtain ⟨order, reason, -⟩ :=
    classify_by_precedence hcodes hphrases hmessages "insufficient resources: 222"
  obtain ⟨-, reason', -, -, -, kept, -⟩ :=
    classify_by_precedence hcodes hphrases hmessages "found no compatible cell for rootfs"
  refine ⟨⟨hcodes, hphrases, hmessages⟩, ?_, fun h => h.1 _ coded ends, passed, ?_⟩
  · rw [order]
    exact (reason _).2 (.exitCode coded ends)
  · rw [(kept passed).2]
    exact (reason' _).2 (.phrase passed.1 (by decide) starts)

end CellRecipe.Failure
