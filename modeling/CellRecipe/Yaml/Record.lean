import CellRecipe.Yaml.Node
import CellRecipe.Yaml.Scalar

/-!
# Reading records from YAML

How a node becomes a value of a domain type. A plain scalar is read by the type that is asked for,
so `5`, `true` and `~` are texts where a text is wanted; a quoted scalar is never a number or a
truth value. Keys that a record does not name are passed over, one that it names may occur only
once.

## Main definitions

* `Node.flag?`, `Node.unsigned?`, `Node.signed?`, `Node.orNull?`: plain values.
* `Record.of?`, `Record.withDefault`: records whose fields all have defaults.
-/

namespace CellRecipe.Yaml

namespace Node

/-! ## Plain values -/

/-- What the standard tags start with. -/
def standardTag (name : String) : String := "tag:yaml.org,2002:" ++ name

/-- The characters of a scalar that may be read as something else than a text: a plain one, or a
literal block with the tag of the type. -/
def untexted? (tag : String) : Node → Option (List Char)
  | .scalar s =>
    if s.style = .plain ∨ (s.style = .literal ∧ s.tag = some (standardTag tag)) then
      some s.text.toList
    else none
  | _ => none

/-- A truth value. -/
def flag? (n : Node) : Option Bool := (n.untexted? "bool").bind Scalar.flag?

/-- A natural number up to `high`. -/
def unsigned? (high : Nat) (n : Node) : Option Nat :=
  (n.untexted? "int").bind (Scalar.unsigned? high)

/-- An integer from `low` to `high`. -/
def signed? (low high : Int) (n : Node) : Option Int :=
  (n.untexted? "int").bind (Scalar.signed? low high)

/-- Does the node stand for nothing? A scalar that is tagged to stand for nothing has to; one with
any other tag, the bare `!` among them, stands for something. -/
def isNull? : Node → Option Bool
  | .scalar s =>
    if s.style ≠ .plain then some false
    else
      match s.tag with
      | none => some (s.text.isEmpty || Scalar.isNull s.text.toList)
      | some tag =>
        if tag ≠ standardTag "null" then some false
        else if Scalar.isNull s.text.toList then some true
        else none
  | _ => some false

/-- A value that may be nothing. -/
def orNull? (value : Node → Option α) (n : Node) : Option (Option α) := do
  if ← n.isNull? then return none else return some (← value n)

/-- A list whose items are read by `item`. -/
def list? (anchors : Anchors) (item : Node → Option α) (n : Node) : Option (List α) := do
  (← n.items? anchors).mapM item

/-- The entries of a mapping whose keys are texts and whose values are read by `value`. -/
def members? (anchors : Anchors) (value : Node → Option α) (n : Node) :
    Option (List (String × α)) := do
  (← n.entries? anchors).mapM fun e => do return (← e.1.text?, ← value e.2)

end Node

/-! ## Records -/

/-- The entries of a record, none of its fields twice. -/
structure Record where
  entries : List (String × Node)
  anchors : Anchors

namespace Record

/-- Does the key occur at most once? -/
def atMostOnce (es : List (String × Node)) (key : String) : Bool :=
  (es.filter fun e => e.1 == key).length ≤ 1

/-- The record with these fields. -/
def of? (names : List String) (c : Content) : Option Record := do
  let es ← c.root.members? c.anchors some
  if names.all (atMostOnce es) then some ⟨es, c.anchors⟩ else none

/-- A field that stands for a default when it is absent. -/
def withDefault (r : Record) (name : String) (default : α) (value : Node → Option α) : Option α :=
  match r.entries.lookup name with
  | some n => value n
  | none => some default

end Record

end CellRecipe.Yaml
