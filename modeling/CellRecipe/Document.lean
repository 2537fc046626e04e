import CellRecipe.Json.Value

/-!
# Documents to be written

What a value looks like once it is written out, before a format is chosen. A document has the shape
of a JSON value and, besides, knows which records stand for one case of several: a `variant` is an
object with one member in JSON and a tagged mapping in YAML.

Optional parts of a record are left out when they are absent, so a record is built from entries that
may be missing (`Document.ofEntries`).

## Main definitions

* `Document.toJson`: the JSON value of a document.
* `Document.ofJson`: a JSON value as a document without cases.
-/

namespace CellRecipe

/-- A value ready to be written. -/
inductive Document where
  | null
  | bool (value : Bool)
  | number (value : Number)
  | text (value : String)
  | list (items : List Document)
  | record (members : List (String × Document))
  | variant (name : String) (content : Document)
  deriving Inhabited

namespace Document

mutual

/-- The JSON value of a document. -/
def toJson : Document → Json
  | .null => .null
  | .bool b => .bool b
  | .number n => .number n
  | .text s => .string s
  | .list items => .array (itemsToJson items)
  | .record ms => .object (membersToJson ms)
  | .variant name content => .object [(name, content.toJson)]

/-- The JSON values of the items. -/
def itemsToJson : List Document → List Json
  | [] => []
  | x :: rest => x.toJson :: itemsToJson rest

/-- The JSON values of the members. -/
def membersToJson : List (String × Document) → List (String × Json)
  | [] => []
  | (k, v) :: rest => (k, v.toJson) :: membersToJson rest

end

mutual

/-- A JSON value as a document. -/
def ofJson : Json → Document
  | .null => .null
  | .bool b => .bool b
  | .number n => .number n
  | .string s => .text s
  | .array items => .list (ofItems items)
  | .object ms => .record (ofMembers ms)

/-- The items as documents. -/
def ofItems : List Json → List Document
  | [] => []
  | x :: rest => ofJson x :: ofItems rest

/-- The members as documents. -/
def ofMembers : List (String × Json) → List (String × Document)
  | [] => []
  | (k, v) :: rest => (k, ofJson v) :: ofMembers rest

end

mutual

theorem toJson_ofJson : (j : Json) → (ofJson j).toJson = j
  | .null => rfl
  | .bool _ => rfl
  | .number _ => rfl
  | .string _ => rfl
  | .array items => by simp [ofJson, toJson, itemsToJson_ofItems items]
  | .object ms => by simp [ofJson, toJson, membersToJson_ofMembers ms]

theorem itemsToJson_ofItems : (items : List Json) → itemsToJson (ofItems items) = items
  | [] => rfl
  | x :: rest => by simp [ofItems, itemsToJson, toJson_ofJson x, itemsToJson_ofItems rest]

theorem membersToJson_ofMembers : (ms : List (String × Json)) →
    membersToJson (ofMembers ms) = ms
  | [] => rfl
  | (k, v) :: rest => by
    simp [ofMembers, membersToJson, toJson_ofJson v, membersToJson_ofMembers rest]

end

/-! ## Entries of a record -/

/-- An entry of a record, or none if it is left out. -/
abbrev Entry := Option (String × Document)

/-- An entry that is always written. -/
def Entry.always (name : String) (value : Document) : Entry := some (name, value)

/-- An entry that is left out when there is no value. -/
def Entry.ifSome (name : String) (value : α → Document) (found : Option α) : Entry :=
  found.map fun x => (name, value x)

/-- An entry that is left out when the list is empty. -/
def Entry.ifAny (name : String) (item : α → Document) (items : List α) : Entry :=
  if items.isEmpty then none else some (name, .list (items.map item))

/-- The record of the entries that are there. -/
def ofEntries (entries : List Entry) : Document := .record (entries.filterMap id)

/-- The record with one field. -/
def field (name : String) (value : Document) : Document := .record [(name, value)]

/-- An integer. -/
def integer (n : Int) : Document := .number (.whole n)

/-- A natural number. -/
def natural (n : Nat) : Document := .number (.whole n)

/-- A list of texts. -/
def texts (items : List String) : Document := .list (items.map .text)

/-- A value that may be missing, written as `null` then. -/
def orNull (value : α → Document) : Option α → Document
  | some x => value x
  | none => .null

end Document

end CellRecipe
