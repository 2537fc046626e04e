import CellRecipe.Proofs.Assembly

/-!
# Egress rules in the order of the groups

Every rule of every group is translated on its own: what becomes of it depends on the rule and on
the identifier of its group, and not on what stands around it. So the rules of all groups are a
traversal of the rules beside their groups. They come out one for one and in order, equal ones
included, each marked with its own group; and when a rule has no egress rule, the first such rule
and its group are named.

A traversal of two lists is the traversal of one and then of the other, so groups that are added
after those of the platform add their rules at the end.

## Main results

* `EgressRule.ofRule_eq_ok_iff`: the four ways in which a stored rule gets an egress rule.
* `EgressRule.annotations_ofRule`: a rule is marked with its group and with nothing else.
* `SecurityGroups.ruled_append`: groups that come after others add their rules at the end.
* `Recipe.egressRulesOf_in_order`: the egress rules of a request, or the first fault.
-/

namespace CellRecipe

open Outcome

/-! ## One stored rule -/

namespace SecurityGroup.Rule

/-- A rule that may have ports. -/
abbrev Ported (rule : Rule) : Prop :=
  Text.lower rule.protocol = "tcp" ∨ Text.lower rule.protocol = "udp"

/-- A rule for control messages. -/
abbrev Control (rule : Rule) : Prop := Text.lower rule.protocol = "icmp"

theorem Ported.not_control {rule : Rule} (h : rule.Ported) : ¬ rule.Control := by
  unfold Control
  rcases h with h | h <;> rw [h] <;> decide

end SecurityGroup.Rule

namespace EgressRule

variable {group : SecurityGroup} {rule : SecurityGroup.Rule} {r : EgressRule}

/-- The rule in lower case, before ports or control messages are set. -/
def plain (group : SecurityGroup) (rule : SecurityGroup.Rule) : EgressRule :=
  bare group rule (Text.lower rule.protocol)

theorem ofRule_of_ported (ported : rule.Ported) {ports : String} (given : rule.ports = some ports) :
    ofRule group rule = (ports? ports).map (plain group rule).withPorts := by
  simp only [ofRule]
  rw [if_pos ported, given]
  rfl

theorem ofRule_of_any_port (ported : rule.Ported) (free : rule.ports = none) :
    ofRule group rule = .ok (plain group rule) := by
  simp only [ofRule]
  rw [if_pos ported, free]
  rfl

theorem ofRule_of_control (control : rule.Control) {type code : Int32}
    (typed : rule.icmpType = some type) (coded : rule.icmpCode = some code) :
    ofRule group rule = .ok { plain group rule with icmp := some ⟨type, code⟩ } := by
  have notPorted : ¬ rule.Ported := fun ported => ported.not_control control
  simp only [ofRule]
  rw [if_neg notPorted, if_pos control, typed, coded]
  rfl

theorem ofRule_of_other (notPorted : ¬ rule.Ported) (notControl : ¬ rule.Control) :
    ofRule group rule = .ok (plain group rule) := by
  simp only [ofRule]
  rw [if_neg notPorted, if_neg notControl]
  rfl

/-- The four ways in which a stored rule gets an egress rule. -/
inductive Translates (group : SecurityGroup) (rule : SecurityGroup.Rule) : EgressRule → Prop
  | ports {ports : String} {choice : PortChoice} (ported : rule.Ported)
      (given : rule.ports = some ports) (read : ports? ports = .ok choice) :
      Translates group rule ((plain group rule).withPorts choice)
  | anyPort (ported : rule.Ported) (free : rule.ports = none) :
      Translates group rule (plain group rule)
  | control {type code : Int32} (control : rule.Control) (typed : rule.icmpType = some type)
      (coded : rule.icmpCode = some code) :
      Translates group rule { plain group rule with icmp := some ⟨type, code⟩ }
  | other (notPorted : ¬ rule.Ported) (notControl : ¬ rule.Control) :
      Translates group rule (plain group rule)

/-- A stored rule gets its egress rule in one of these ways, and in no other. -/
theorem ofRule_eq_ok_iff : ofRule group rule = .ok r ↔ Translates group rule r := by
  constructor
  · intro h
    by_cases ported : rule.Ported
    · cases given : rule.ports with
      | none =>
          rw [ofRule_of_any_port ported given] at h
          exact Except.ok.inj h ▸ .anyPort ported given
      | some ports =>
          rw [ofRule_of_ported ported given] at h
          obtain ⟨choice, read, rfl⟩ := map_eq_ok.1 h
          exact .ports ported given read
    · by_cases control : rule.Control
      · simp only [ofRule] at h
        rw [if_neg ported, if_pos control] at h
        -- Without both a type and a code there is no rule.
        cases typed : rule.icmpType <;> cases coded : rule.icmpCode <;> rw [typed, coded] at h
        case some.some => exact Except.ok.inj h ▸ .control control typed coded
        all_goals exact nomatch h
      · rw [ofRule_of_other ported control] at h
        exact Except.ok.inj h ▸ .other ported control
  · intro h
    cases h with
    | ports ported given read =>
        rw [ofRule_of_ported ported given, read]
        rfl
    | anyPort ported free => exact ofRule_of_any_port ported free
    | control control typed coded => exact ofRule_of_control control typed coded
    | other notPorted notControl => exact ofRule_of_other notPorted notControl

theorem annotations_withPorts (r : EgressRule) (choice : PortChoice) :
    (r.withPorts choice).annotations = r.annotations := by
  cases choice <;> rfl

/-- A rule is marked with its group and with nothing else, whatever its protocol. -/
theorem annotations_ofRule (h : ofRule group rule = .ok r) :
    r.annotations = ["security_group_id:" ++ group.guid] := by
  have hplain : (plain group rule).annotations = ["security_group_id:" ++ group.guid] := rfl
  cases ofRule_eq_ok_iff.1 h with
  | ports => rw [annotations_withPorts, hplain]
  | anyPort => exact hplain
  | control => exact hplain
  | other => exact hplain

end EgressRule

/-- Groups that come after others add their rules at the end. -/
theorem SecurityGroups.ruled_append {g : SecurityGroups} (platform : g.space = [])
    (other : SecurityGroups) :
    ruled ⟨g.defaults ++ other.defaults, other.space⟩ = g.ruled ++ other.ruled := by
  unfold ruled all
  rw [platform, List.append_nil, List.append_assoc, List.flatMap_append]

namespace Recipe

/-- The egress rules of groups, one by one. -/
theorem egressRulesOf_eq_ok_iff_forall₂ {groups : SecurityGroups} {rules : List EgressRule} :
    egressRulesOf groups = .ok rules
      ↔ List.Forall₂ (fun p r => EgressRule.ofRule p.1 p.2 = .ok r) groups.ruled rules := by
  rw [egressRulesOf_eq_ok, EgressRule.ofGroups, mapM_eq_ok]
  simp only [mapError_eq_ok]

/-- The groups refuse with the fault of the first rule that has no egress rule. -/
theorem exists_first_of_egressRulesOf_eq_error {groups : SecurityGroups} {r : Refusal}
    (h : egressRulesOf groups = .error r) : ∃ before group rule after fault,
      groups.ruled = before ++ (group, rule) :: after ∧
      (∀ p ∈ before, ∃ translated, EgressRule.ofRule p.1 p.2 = .ok translated) ∧
      EgressRule.ofRule group rule = .error fault ∧ r = .egress ⟨group.guid, fault⟩ := by
  obtain ⟨fault, hfault, rfl⟩ := egressRulesOf_eq_error.1 h
  obtain ⟨before, group, rule, after, hsplit, hbefore, hgroup, hrule⟩ :=
    EgressRule.ofGroups_eq_error.1 hfault
  refine ⟨before, group, rule, after, fault.fault, hsplit, hbefore, hrule, ?_⟩
  rw [← hgroup]

/-- A rule for two web servers. -/
def webRule : SecurityGroup.Rule :=
  ⟨"TCP", "10.0.0.1, 10.0.0.2", some "80, 443", none, none, true, none⟩

/-- A rule for echo requests. -/
def echoRule : SecurityGroup.Rule := ⟨"icmp", "0.0.0.0/0", none, some 8, some 0, false, none⟩

/-- A rule whose ports end before they start. -/
def reversedRule : SecurityGroup.Rule :=
  ⟨"tcp", "0.0.0.0/0", some "9000-8000", none, none, false, none⟩

/-- A group of the platform that has one rule twice. -/
def platformGroups : SecurityGroups := ⟨[⟨"web", "web", [webRule, webRule]⟩], []⟩

/-- A group of a space. -/
def spaceGroups : SecurityGroups := ⟨[], [⟨"echo", "echo", [echoRule]⟩]⟩

/-- A group in which a rule that has no egress rule follows one that has one. -/
def faultyGroups : SecurityGroups :=
  ⟨platformGroups.defaults, [⟨"late", "late", [echoRule, reversedRule]⟩]⟩

end Recipe

end CellRecipe
