import CellRecipe.Document
import CellRecipe.Json.Record

/-!
# Security groups

The outbound network rules that an operator has stored, as they come with a request. The groups that
hold for the whole platform stand before those of the workload's space.

## Main definitions

* `SecurityGroups.ruled`: every rule with its group, in the order in which they apply.
-/

namespace CellRecipe

namespace SecurityGroup

/-- A stored rule. Ports are written `80`, `80,443` or `8000-9000`. -/
structure Rule where
  protocol : String
  destination : String
  ports : Option String
  icmpType : Option Int32
  icmpCode : Option Int32
  log : Bool
  description : Option String
  deriving DecidableEq, Inhabited

/-- The rule as it is written. -/
def Rule.document (r : Rule) : Document :=
  .record [
    ("protocol", .text r.protocol),
    ("destination", .text r.destination),
    ("ports", .orNull .text r.ports),
    ("type", .orNull (fun n => .integer n.toInt) r.icmpType),
    ("code", .orNull (fun n => .integer n.toInt) r.icmpCode),
    ("log", .bool r.log),
    ("description", .orNull .text r.description)]

/-- The rule that a JSON value stands for. -/
def Rule.ofJson? (j : Json.Source) : Option Rule := do
  let r ← Json.Record.of?
    ["protocol", "destination", "ports", "type", "code", "log", "description"] j
  return {
    protocol := ← r.required "protocol" Json.text?
    destination := ← r.required "destination" Json.text?
    ports := ← r.optional "ports" Json.text?
    icmpType := ← r.optional "type" Json.int32?
    icmpCode := ← r.optional "code" Json.int32?
    log := ← r.withDefault "log" false Json.flag?
    description := ← r.optional "description" Json.text? }

end SecurityGroup

/-- A named group of rules. -/
structure SecurityGroup where
  guid : String
  name : String
  rules : List SecurityGroup.Rule
  deriving DecidableEq, Inhabited

namespace SecurityGroup

/-- The group as it is written. -/
def document (g : SecurityGroup) : Document :=
  .record [
    ("guid", .text g.guid),
    ("name", .text g.name),
    ("rules", .list (g.rules.map Rule.document))]

/-- The group that a JSON value stands for. -/
def ofJson? (j : Json.Source) : Option SecurityGroup := do
  let r ← Json.Record.of? ["guid", "name", "rules"] j
  return {
    guid := ← r.required "guid" Json.text?
    name := ← r.withDefault "name" "" Json.text?
    rules := ← r.withDefault "rules" [] (Json.list? Rule.ofJson?) }

end SecurityGroup

/-- The groups that apply to one workload. -/
structure SecurityGroups where
  defaults : List SecurityGroup
  space : List SecurityGroup
  deriving DecidableEq, Inhabited

namespace SecurityGroups

/-- No group at all. -/
def none : SecurityGroups := ⟨[], []⟩

/-- All groups, those of the platform first. -/
def all (g : SecurityGroups) : List SecurityGroup := g.defaults ++ g.space

/-- Every rule beside the group that it belongs to. -/
def ruled (g : SecurityGroups) : List (SecurityGroup × SecurityGroup.Rule) :=
  g.all.flatMap fun group => group.rules.map fun rule => (group, rule)

/-- The groups as they are written. -/
def document (g : SecurityGroups) : Document :=
  .record [
    ("defaults", .list (g.defaults.map SecurityGroup.document)),
    ("space", .list (g.space.map SecurityGroup.document))]

/-- The groups that a JSON value stands for. -/
def ofJson? (j : Json.Source) : Option SecurityGroups := do
  let r ← Json.Record.of? ["defaults", "space"] j
  return {
    defaults := ← r.withDefault "defaults" [] (Json.list? SecurityGroup.ofJson?)
    space := ← r.withDefault "space" [] (Json.list? SecurityGroup.ofJson?) }

end SecurityGroups

end CellRecipe
