import CellRecipe.SecurityGroup
import CellRecipe.Text.Character
import CellRecipe.Text.LetterCase
import CellRecipe.Text.Numeral
import CellRecipe.Text.Split

/-!
# Egress rules

What a container may reach, one rule for each rule of its security groups and in their order. A rule
for `tcp` or `udp` may give single ports or one range of ports, a rule for `icmp` gives a type and a
code, and every rule is annotated with the group that it came from.

A port is a numeral from 1 to 65535 with an optional plus sign and blanks around it.

## Main definitions

* `EgressRule.ports?`: the ports that a rule of a security group writes.
* `EgressRule.ofRule`: the egress rule of a stored rule.
* `EgressRule.ofGroups`: the rules of all groups, or the first fault.
-/

namespace CellRecipe

/-- A range of ports, both ends included. -/
structure PortRange where
  start : UInt32
  last : UInt32
  deriving DecidableEq, Inhabited

/-- The kind of control messages that a rule is for. -/
structure IcmpKind where
  type : Int32
  code : Int32
  deriving DecidableEq, Inhabited

/-- A rule for outbound traffic. -/
structure EgressRule where
  protocol : String
  destinations : List String
  ports : List UInt32
  portRange : Option PortRange
  icmp : Option IcmpKind
  log : Bool
  annotations : List String
  deriving DecidableEq, Inhabited

/-! ## Written forms -/

namespace PortRange

/-- The range as it is written. -/
def document (r : PortRange) : Document :=
  .record [("start", .natural r.start.toNat), ("end", .natural r.last.toNat)]

/-- The range that a JSON value stands for. -/
def ofJson? (j : Json.Source) : Option PortRange := do
  let r ← Json.Record.of? ["start", "end"] j
  return {
    start := ← r.required "start" Json.word32?
    last := ← r.required "end" Json.word32? }

end PortRange

namespace IcmpKind

/-- The kind as it is written. -/
def document (k : IcmpKind) : Document :=
  .record [("type", .integer k.type.toInt), ("code", .integer k.code.toInt)]

/-- The kind that a JSON value stands for. -/
def ofJson? (j : Json.Source) : Option IcmpKind := do
  let r ← Json.Record.of? ["type", "code"] j
  return {
    type := ← r.required "type" Json.int32?
    code := ← r.required "code" Json.int32? }

end IcmpKind

namespace EgressRule

/-- The entries of a written rule. -/
def entries (r : EgressRule) : List Document.Entry := [
  .always "protocol" (.text r.protocol),
  .always "destinations" (.texts r.destinations),
  .ifAny "ports" (fun p => .natural p.toNat) r.ports,
  .ifSome "port_range" PortRange.document r.portRange,
  .ifSome "icmp_info" IcmpKind.document r.icmp,
  .always "log" (.bool r.log),
  .always "annotations" (.texts r.annotations)]

/-- The rule as it is written. -/
def document (r : EgressRule) : Document := .ofEntries r.entries

/-- The fields of a rule, in order. -/
def fieldNames : List String :=
  ["protocol", "destinations", "ports", "port_range", "icmp_info", "log", "annotations"]

/-- The rule that a JSON value stands for. -/
def ofJson? (j : Json.Source) : Option EgressRule := do
  let r ← Json.Record.of? fieldNames j
  return {
    protocol := ← r.required "protocol" Json.text?
    destinations := ← r.required "destinations" (Json.list? Json.text?)
    ports := ← r.withDefault "ports" [] (Json.list? Json.word32?)
    portRange := ← r.optional "port_range" PortRange.ofJson?
    icmp := ← r.optional "icmp_info" IcmpKind.ofJson?
    log := ← r.withDefault "log" false Json.flag?
    annotations := ← r.required "annotations" (Json.list? Json.text?) }

/-! ## Ports -/

/-- Why a stored rule gives no egress rule. -/
inductive Fault where
  | badPort (token : String)
  | reversedRange (range : String)
  | icmpIncomplete
  deriving DecidableEq

/-- The words for a fault. -/
def Fault.message : Fault → String
  | .badPort token => "invalid port: " ++ token
  | .reversedRange range => "port range " ++ range ++ " is reversed"
  | .icmpIncomplete => "icmp rules require type and code"

/-- The ports of a rule: some single ones, or a range. -/
inductive PortChoice where
  | single (ports : List UInt32)
  | range (range : PortRange)
  deriving DecidableEq

/-- One port; blanks around it do not count. -/
def port? (cs : List Char) : Except Fault UInt32 :=
  let token := Text.trimChars cs
  match Text.natural? token with
  | some n => if 1 ≤ n ∧ n ≤ 65535 then .ok (UInt32.ofNat n) else .error (.badPort (.ofList token))
  | none => .error (.badPort (.ofList token))

/-- The ports of a rule, without blanks around them: a range if they hold a hyphen. -/
def portChoice? (cs : List Char) : Except Fault PortChoice :=
  match Text.splitFirst '-' cs with
  | some (a, b) => do
    let start ← port? a
    let last ← port? b
    if start ≤ last then return .range ⟨start, last⟩
    else throw (.reversedRange (.ofList cs))
  | none => return .single (← (Text.splitAll ',' cs).mapM port?)

/-- The ports that a text writes. -/
def ports? (s : String) : Except Fault PortChoice := portChoice? (Text.trimChars s.toList)

/-! ## Stored rules -/

/-- The parts of a list of destinations, without blanks around them and without empty ones. -/
def destinationParts (s : String) : List String :=
  (((Text.splitAll ',' s.toList).map Text.trimChars).filter fun cs => !cs.isEmpty).map String.ofList

/-- The annotation for a group. -/
def annotationFor (guid : String) : String := "security_group_id:" ++ guid

/-- The rule for a protocol in lower case, before ports or control messages are set. -/
def bare (group : SecurityGroup) (rule : SecurityGroup.Rule) (protocol : String) : EgressRule where
  protocol := protocol
  destinations := destinationParts rule.destination
  ports := []
  portRange := none
  icmp := none
  log := rule.log
  annotations := [annotationFor group.guid]

/-- The rule with the chosen ports. -/
def withPorts (r : EgressRule) : PortChoice → EgressRule
  | .single ports => { r with ports := ports }
  | .range range => { r with portRange := some range }

/-- The egress rule of a stored rule of a group. -/
def ofRule (group : SecurityGroup) (rule : SecurityGroup.Rule) : Except Fault EgressRule :=
  let protocol := Text.lower rule.protocol
  let r := bare group rule protocol
  if protocol = "tcp" ∨ protocol = "udp" then
    match rule.ports with
    | some ports => (ports? ports).map r.withPorts
    | none => .ok r
  else if protocol = "icmp" then
    match rule.icmpType, rule.icmpCode with
    | some type, some code => .ok { r with icmp := some ⟨type, code⟩ }
    | _, _ => .error .icmpIncomplete
  else .ok r

/-- A fault and the group in whose rule it is. -/
structure GroupFault where
  group : String
  fault : Fault
  deriving DecidableEq

/-- The rules of all groups, or the first fault among them. -/
def ofGroups (groups : SecurityGroups) : Except GroupFault (List EgressRule) :=
  groups.ruled.mapM fun (group, rule) =>
    (ofRule group rule).mapError fun fault => ⟨group.guid, fault⟩

end EgressRule

end CellRecipe
