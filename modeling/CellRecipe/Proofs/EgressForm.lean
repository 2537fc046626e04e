import CellRecipe.Proofs.PortGrammar

/-!
# The form of egress rules

A stored rule is made of texts and numbers that nobody has looked at, and the rule that is made of
it goes to a firewall as it is. So what the firewall may rely on has to hold of every rule that is
made: a port is never given in two ways, a range is never empty, control messages are for `icmp`
alone, and a destination is neither empty nor more than one.

What a stored rule says beside that does not matter. Its protocol may be in either case, and parts
that its protocol has no use for are not looked at.

## Main definitions

* `EgressRule.SplitsInto`: the destinations in a text.
* `EgressRule.WellFormed`: what holds of the egress rule of a stored rule.

## Main results

* `EgressRule.selects_of_translates`: what a rule is for, by the way in which it is made.
* `EgressRule.ofRule_protocol_congr`: the case of a protocol does not matter.
* `EgressRule.ofRule_well_formed`: the form of every rule, and what it does not depend on.
-/

namespace CellRecipe

open Outcome

namespace EgressRule

variable {group : SecurityGroup} {rule : SecurityGroup.Rule} {r : EgressRule}

/-! ## Destinations -/

/-- The destinations in a text are its parts between commas, without the blanks around them. Parts
of blanks alone are left out. -/
def SplitsInto (text : String) (destinations : List String) : Prop :=
  ∃ parts trimmed : List (List Char), parts ≠ [] ∧ (∀ p ∈ parts, ',' ∉ p) ∧
    [','].intercalate parts = text.toList ∧ List.Forall₂ Text.Stripped parts trimmed ∧
    destinations.map String.toList = trimmed.filter (· ≠ [])

theorem splitsInto_destinationParts (text : String) :
    SplitsInto text (destinationParts text) := by
  have trimmed : List.Forall₂ Text.Stripped (Text.splitAll ',' text.toList)
      ((Text.splitAll ',' text.toList).map Text.trimChars) := by
    rw [List.forall₂_map_right_iff, List.forall₂_same]
    exact fun p _ => Text.stripped_trimChars p
  refine ⟨_, _, Text.splitAllFrom_ne_nil ',' [] text.toList, ?_, ?_, trimmed, ?_⟩
  · exact fun p hp => Text.not_mem_of_mem_splitAll hp
  · exact Text.intercalate_splitAll ',' text.toList
  · have htexts (texts : List (List Char)) :
        (texts.map String.ofList).map String.toList = texts := by
      simp
    rw [destinationParts, htexts]
    exact List.filter_congr fun cs _ => by cases cs <;> rfl

/-- No destination is empty, holds a comma or has blanks at its ends. -/
theorem SplitsInto.plain {text : String} {destinations : List String}
    (h : SplitsInto text destinations) :
    ∀ d ∈ destinations, d ≠ "" ∧ ',' ∉ d.toList ∧ Text.Stripped d.toList d.toList := by
  obtain ⟨parts, trimmed, -, hcomma, -, hstripped, hkept⟩ := h
  intro d hd
  have hmem : d.toList ∈ trimmed.filter (· ≠ []) := hkept ▸ List.mem_map_of_mem hd
  obtain ⟨htrimmed, hne⟩ := List.mem_filter.1 hmem
  obtain ⟨p, hp, stripped⟩ := exists_left_of_mem hstripped _ htrimmed
  refine ⟨?_, ?_, stripped.again⟩
  · rintro rfl
    exact of_decide_eq_true hne rfl
  · -- A part has no comma, and what is left of it without blanks has none either.
    obtain ⟨before, after, hsplit, -, -⟩ := stripped.around
    intro hc
    apply hcomma p hp
    rw [hsplit]
    exact List.mem_append_left _ (List.mem_append_right _ hc)

/-! ## Well-formed rules -/

/-- What an egress rule is for: ports of `tcp` and `udp` in one form, or one kind of control
messages of `icmp`. -/
structure Selects (rule : SecurityGroup.Rule) (r : EgressRule) : Prop where
  oneKind : r.ports = [] ∧ r.portRange = none ∨ r.ports = [] ∧ r.icmp = none ∨
    r.portRange = none ∧ r.icmp = none
  ported : r.ports ≠ [] ∨ r.portRange ≠ none → rule.Ported
  given : rule.Ported → rule.ports ≠ none → (r.ports ≠ [] ↔ r.portRange = none)
  free : rule.Ported → rule.ports = none → r.ports = [] ∧ r.portRange = none
  control : r.icmp ≠ none ↔ rule.Control
  kind : ∀ kind, r.icmp = some kind →
    rule.icmpType = some kind.type ∧ rule.icmpCode = some kind.code
  ports : ∀ port ∈ r.ports, 1 ≤ port.toNat ∧ port.toNat ≤ 65535
  range : ∀ ends, r.portRange = some ends → 1 ≤ ends.start.toNat ∧
    ends.start.toNat ≤ ends.last.toNat ∧ ends.last.toNat ≤ 65535

/-- An egress rule as a firewall may rely on it. -/
structure WellFormed (rule : SecurityGroup.Rule) (r : EgressRule) : Prop extends
    Selects rule r where
  protocol : r.protocol = Text.lower rule.protocol
  destinations : SplitsInto rule.destination r.destinations
  plain : ∀ d ∈ r.destinations, d ≠ "" ∧ ',' ∉ d.toList ∧ Text.Stripped d.toList d.toList
  annotation : ∃ mark, r.annotations = [mark]

/-- Ports and control messages leave the rest of a rule as it is. -/
theorem frame_of_translates (h : Translates group rule r) :
    r.protocol = Text.lower rule.protocol ∧ r.destinations = destinationParts rule.destination := by
  cases h with
  | @ports _ choice => cases choice <;> exact ⟨rfl, rfl⟩
  | anyPort => exact ⟨rfl, rfl⟩
  | control => exact ⟨rfl, rfl⟩
  | other => exact ⟨rfl, rfl⟩

/-- A rule is for every port where it gives none. -/
theorem selects_plain (notControl : ¬ rule.Control) (free : rule.Ported → rule.ports = none) :
    Selects rule (plain group rule) where
  oneKind := .inl ⟨rfl, rfl⟩
  ported h := absurd rfl (h.resolve_left fun h => h rfl)
  given ported h := absurd (free ported) h
  free _ _ := ⟨rfl, rfl⟩
  control := ⟨fun h => absurd rfl h, fun control => absurd control notControl⟩
  kind _ h := nomatch h
  ports _ h := nomatch h
  range _ h := nomatch h

/-- A rule is for the ports that it gives, in the form in which it gives them. -/
theorem selects_withPorts (ported : rule.Ported) (given : rule.ports ≠ none) {choice : PortChoice}
    (valid : choice.Valid) : Selects rule ((plain group rule).withPorts choice) := by
  have notControl := ported.not_control
  cases choice with
  | single ports =>
      obtain ⟨nonempty, bounds⟩ := valid
      exact {
        oneKind := .inr (.inr ⟨rfl, rfl⟩)
        ported := fun _ => ported
        given := fun _ _ => ⟨fun _ => rfl, fun _ => nonempty⟩
        free := fun _ free => absurd free given
        control := ⟨fun h => absurd rfl h, fun control => absurd control notControl⟩
        kind := fun _ h => nomatch h
        ports := bounds
        range := fun _ h => nomatch h }
  | range ends =>
      exact {
        oneKind := .inr (.inl ⟨rfl, rfl⟩)
        ported := fun _ => ported
        given := fun _ _ => ⟨fun h => absurd rfl h, fun h => nomatch h⟩
        free := fun _ free => absurd free given
        control := ⟨fun h => absurd rfl h, fun control => absurd control notControl⟩
        kind := fun _ h => nomatch h
        ports := fun _ h => nomatch h
        range := fun _ h => Option.some.inj h ▸ valid }

/-- A rule for control messages is for the kind that it gives. -/
theorem selects_control (control : rule.Control) {kind : IcmpKind}
    (typed : rule.icmpType = some kind.type) (coded : rule.icmpCode = some kind.code) :
    Selects rule { plain group rule with icmp := some kind } := by
  have notPorted : ¬ rule.Ported := fun ported => ported.not_control control
  exact {
    oneKind := .inl ⟨rfl, rfl⟩
    ported := fun h => absurd rfl (h.resolve_left fun h => h rfl)
    given := fun ported => absurd ported notPorted
    free := fun ported => absurd ported notPorted
    control := ⟨fun _ => control, fun _ h => nomatch h⟩
    kind := fun _ h => Option.some.inj h ▸ ⟨typed, coded⟩
    ports := fun _ h => nomatch h
    range := fun _ h => nomatch h }

/-- What a rule is for hangs on the way in which it gets its egress rule. -/
theorem selects_of_translates (h : Translates group rule r) : Selects rule r := by
  cases h with
  | ports ported given read =>
      exact selects_withPorts ported (by simp [given]) (portChoice?_eq_ok_iff.1 read).valid
  | anyPort ported free => exact selects_plain ported.not_control fun _ => free
  | control control typed coded => exact selects_control control typed coded
  | other notPorted notControl =>
      exact selects_plain notControl fun ported => absurd ported notPorted

theorem wellFormed_of_ofRule (h : ofRule group rule = .ok r) : WellFormed rule r := by
  have translates := ofRule_eq_ok_iff.1 h
  obtain ⟨protocol, destinations⟩ := frame_of_translates translates
  have splits : SplitsInto rule.destination r.destinations :=
    destinations ▸ splitsInto_destinationParts rule.destination
  exact {
    toSelects := selects_of_translates translates
    protocol := protocol
    destinations := splits
    plain := splits.plain
    annotation := ⟨_, annotations_ofRule h⟩ }

/-! ## What does not matter -/

/-- A protocol may have its ASCII letters in either case. -/
theorem ofRule_protocol_congr {protocol : String}
    (same : protocol.toLower = rule.protocol.toLower) :
    ofRule group { rule with protocol := protocol } = ofRule group rule := by
  have hlower : Text.lower protocol = Text.lower rule.protocol := by
    rw [← Text.lower_toLower protocol, same, Text.lower_toLower]
  simp only [ofRule, bare, hlower]

/-- Ports are read for `tcp` and `udp` alone. -/
theorem ofRule_ports_congr (notPorted : ¬ rule.Ported) (ports : Option String) :
    ofRule group { rule with ports := ports } = ofRule group rule := by
  simp only [ofRule, bare, if_neg notPorted]

/-- A type and a code are read for `icmp` alone. -/
theorem ofRule_icmp_congr (notControl : ¬ rule.Control) (type code : Option Int32) :
    ofRule group { rule with icmpType := type, icmpCode := code } = ofRule group rule := by
  simp only [ofRule, bare, if_neg notControl]

/--
**Egress rules are well-formed.** The egress rule of a stored rule has its protocol in lower case
and its destinations one by one. It is for ports where the protocol has ports, in one form and
within their bounds, or for control messages where the protocol is `icmp`. It does not depend on the
case of the ASCII letters of the protocol, nor on ports or on types and codes where the protocol has
none.
-/
theorem ofRule_well_formed (group : SecurityGroup) (rule : SecurityGroup.Rule) :
    (∀ r, ofRule group rule = .ok r → WellFormed rule r) ∧
    (∀ protocol : String, protocol.toLower = rule.protocol.toLower →
      ofRule group { rule with protocol := protocol } = ofRule group rule) ∧
    (¬ rule.Ported → ∀ ports,
      ofRule group { rule with ports := ports } = ofRule group rule) ∧
    (¬ rule.Control → ∀ type code,
      ofRule group { rule with icmpType := type, icmpCode := code } = ofRule group rule) := by
  refine ⟨?_, ?_, ?_, ?_⟩
  · exact fun r => wellFormed_of_ofRule
  · exact fun protocol => ofRule_protocol_congr
  · exact ofRule_ports_congr
  · exact ofRule_icmp_congr

/-- A rule for two ports whose protocol is written differently, and parts that are not looked at. -/
theorem ofRule_well_formed_listed :
    (∃ r, ofRule ⟨"web", "web", []⟩ listedRule = .ok r ∧ WellFormed listedRule r) ∧
    ("tCP".toLower = listedRule.protocol.toLower ∧
      ofRule ⟨"web", "web", []⟩ { listedRule with protocol := "tCP" }
        = ofRule ⟨"web", "web", []⟩ listedRule) ∧
    (¬ Recipe.echoRule.Ported ∧
      ofRule ⟨"echo", "echo", []⟩ { Recipe.echoRule with ports := some "http" }
        = ofRule ⟨"echo", "echo", []⟩ Recipe.echoRule) ∧
    ¬ listedRule.Control ∧
      ofRule ⟨"web", "web", []⟩ { listedRule with icmpType := some 8, icmpCode := none }
        = ofRule ⟨"web", "web", []⟩ listedRule := by
  obtain ⟨hform, hprotocol, -, hicmp⟩ := ofRule_well_formed ⟨"web", "web", []⟩ listedRule
  obtain ⟨-, -, hports, -⟩ := ofRule_well_formed ⟨"echo", "echo", []⟩ Recipe.echoRule
  have hcase : "tCP".toLower = listedRule.protocol.toLower := by
    rw [← String.toList_inj, Text.toList_toLower, Text.toList_toLower]
    decide
  have notPorted : ¬ Recipe.echoRule.Ported := by decide
  have notControl : ¬ listedRule.Control := by decide
  exact ⟨⟨_, rfl, hform _ rfl⟩, ⟨hcase, hprotocol _ hcase⟩, ⟨notPorted, hports notPorted _⟩,
    notControl, hicmp notControl _ _⟩

end EgressRule

end CellRecipe
