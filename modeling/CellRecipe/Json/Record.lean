import CellRecipe.Json.Source

/-!
# Reading records from JSON

How what a JSON text has becomes a value of a domain type. A record is written as an object, or as
an array of its fields in the order of their declaration; members that the record does not name are
passed over, whatever they hold, and a named member that occurs twice makes the record unreadable.

A field is `required`; or `optional`, and then absent and `null` both mean none; or it has a
default, which stands in when the field is absent but not when it is `null`.

Integers are read from integers of the right range only: a double is never an integer, even with an
integral value.

## Main definitions

* `Json.Record.of?`: the record with the given field names.
* `Json.Record.required`, `Json.Record.optional`, `Json.Record.withDefault`: its fields.
* `Json.caseName?`: the name of a case without data.
-/

namespace CellRecipe.Json

/-! ## Plain values -/

/-- A string. -/
def text? : Source → Option String
  | .string s => some s
  | _ => none

/-- A truth value. -/
def flag? : Source → Option Bool
  | .bool b => some b
  | _ => none

/-- An integer from `low` to `high`. -/
def integer? (low high : Int) : Source → Option Int
  | .number (.whole n) => if low ≤ n ∧ n ≤ high then some n else none
  | _ => none

/-- A natural number of 16 bits. -/
def word16? (s : Source) : Option UInt16 :=
  (integer? 0 (UInt16.size - 1) s).map fun n => UInt16.ofNat n.toNat

/-- A natural number of 32 bits. -/
def word32? (s : Source) : Option UInt32 :=
  (integer? 0 (UInt32.size - 1) s).map fun n => UInt32.ofNat n.toNat

/-- A natural number of 64 bits. -/
def word64? (s : Source) : Option UInt64 :=
  (integer? 0 (UInt64.size - 1) s).map fun n => UInt64.ofNat n.toNat

/-- A signed integer of 32 bits. -/
def int32? (s : Source) : Option Int32 :=
  (integer? Int32.minValue.toInt Int32.maxValue.toInt s).map Int32.ofInt

/-- A signed integer of 64 bits. -/
def int64? (s : Source) : Option Int64 :=
  (integer? Int64.minValue.toInt Int64.maxValue.toInt s).map Int64.ofInt

/-- A list whose items are read by `item`. -/
def list? (item : Source → Option α) : Source → Option (List α)
  | .array items => items.mapM item
  | _ => none

/-- A value that may be `null`. -/
def orNull? (value : Source → Option α) : Source → Option (Option α)
  | .null => some none
  | s => (value s).map some

/-- An object kept as data, all of which has to denote something. -/
def fields? (s : Source) : Option Fields :=
  match s.value? with
  | some (.object ms) => some (.ofMembers ms)
  | _ => none

/-- The name of a case without data: a string, or an object whose one member is `null`. -/
def caseName? : Source → Option String
  | .string name => some name
  | .object [(name, .null)] => some name
  | _ => none

/-! ## Records -/

/-- The members of a record, none of its fields twice. -/
structure Record where
  members : Source.Members

namespace Record

/-- Does the key occur at most once? -/
def atMostOnce (ms : Source.Members) (key : String) : Bool :=
  (ms.filter fun m => m.1 == key).length ≤ 1

/-- The record with these fields, from an object or from an array of the first of them. -/
def of? (names : List String) : Source → Option Record
  | .object ms => if names.all (atMostOnce ms) then some ⟨ms⟩ else none
  | .array items => if items.length ≤ names.length then some ⟨names.zip items⟩ else none
  | _ => none

/-- A field that has to be there. -/
def required (r : Record) (name : String) (value : Source → Option α) : Option α :=
  (r.members.lookup name).bind value

/-- A field that stands for a default when it is absent. -/
def withDefault (r : Record) (name : String) (default : α) (value : Source → Option α) : Option α :=
  match r.members.lookup name with
  | some s => value s
  | none => some default

/-- A field that may be absent or `null`. -/
def optional (r : Record) (name : String) (value : Source → Option α) : Option (Option α) :=
  r.withDefault name none (orNull? value)

/-- Does the first field stand before the second one? -/
def precedes (r : Record) (first second : String) : Bool :=
  (r.members.takeWhile fun m => m.1 != second).any fun m => m.1 == first

end Record

/-- The one field of a record. -/
def field? (name : String) (value : Source → Option α) (s : Source) : Option α := do
  let r ← Record.of? [name] s
  r.required name value

/-! ## Cases that name themselves -/

/-- A source with the case's name in a field of its own: the name and what is left. In an array the
name stands first. As the name may come last, all of the source has to denote something. -/
def splitCase? (field : String) (s : Source) : Option (String × Source) := do
  match ← s.whole? with
  | .object ms =>
    match ms.filter (fun m => m.1 == field) with
    | [(_, .string name)] => some (name, .object (ms.filter fun m => m.1 != field))
    | _ => none
  | .array (.string name :: rest) => some (name, .array rest)
  | _ => none

end CellRecipe.Json
