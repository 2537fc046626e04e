import CellRecipe.Json.Value

/-!
# JSON as a text has it

A text can be well formed although a part of it denotes nothing: a string may hold half of a
surrogate pair, a number may lie beyond all doubles, an array may be nested too deeply. Whoever
reads a record from the text asks for some of its parts and passes over the others, so such a part
does harm only where somebody asks for it. A `Source` is the tree of a text in which these parts are
marked as `unread`.

## Main definitions

* `Source.value?`: the value of a source of which every part denotes something.
* `Source.ofJson`: a value as a source.

## Main results

* `value?_ofJson`: a value is the value of its source.
-/

namespace CellRecipe.Json

/-- The tree of a JSON text. -/
inductive Source where
  | null
  | bool (value : Bool)
  | number (value : Number)
  | string (value : String)
  | array (items : List Source)
  | object (members : List (String × Source))
  /-- A part that is well formed and denotes nothing. -/
  | unread
  deriving Inhabited

namespace Source

/-- Members of an object in a text, in order. -/
abbrev Members := List (String × Source)

mutual

/-- The value of a source, if every part of it denotes something. -/
def value? : Source → Option Json
  | .null => some .null
  | .bool b => some (.bool b)
  | .number n => some (.number n)
  | .string s => some (.string s)
  | .array items => (itemValues? [] items).map .array
  | .object ms => (memberValues? [] ms).map .object
  | .unread => none

/-- The values of the items after those of `done`, last one first. -/
def itemValues? (done : List Json) : List Source → Option (List Json)
  | [] => some done.reverse
  | x :: rest =>
    match value? x with
    | some j => itemValues? (j :: done) rest
    | none => none

/-- The values of the members after those of `done`, last one first. -/
def memberValues? (done : Json.Members) : List (String × Source) → Option Json.Members
  | [] => some done.reverse
  | (k, x) :: rest =>
    match value? x with
    | some j => memberValues? ((k, j) :: done) rest
    | none => none

end

/-- A source of which every part denotes something, as it is. -/
def whole? (s : Source) : Option Source := s.value?.map fun _ => s

mutual

/-- A value as a source. -/
def ofJson : Json → Source
  | .null => .null
  | .bool b => .bool b
  | .number n => .number n
  | .string s => .string s
  | .array items => .array (ofItems items)
  | .object ms => .object (ofMembers ms)

/-- The items as sources. -/
def ofItems : List Json → List Source
  | [] => []
  | x :: rest => ofJson x :: ofItems rest

/-- The members as sources. -/
def ofMembers : List (String × Json) → Members
  | [] => []
  | (k, v) :: rest => (k, ofJson v) :: ofMembers rest

end

theorem ofMembers_eq_map (ms : Json.Members) :
    ofMembers ms = ms.map fun m => (m.1, ofJson m.2) := by
  induction ms with
  | nil => rfl
  | cons m rest ih => obtain ⟨k, v⟩ := m; rw [ofMembers, ih, List.map_cons]

mutual

theorem value?_ofJson : (j : Json) → (ofJson j).value? = some j
  | .null => rfl
  | .bool _ => rfl
  | .number _ => rfl
  | .string _ => rfl
  | .array items => by rw [ofJson, value?, itemValues?_ofItems items []]; rfl
  | .object ms => by rw [ofJson, value?, memberValues?_ofMembers ms []]; rfl

theorem itemValues?_ofItems : (items done : List Json) →
    itemValues? done (ofItems items) = some (done.reverse ++ items)
  | [], done => by simp [ofItems, itemValues?]
  | x :: rest, done => by
    simp [ofItems, itemValues?, value?_ofJson x, itemValues?_ofItems rest (x :: done)]

theorem memberValues?_ofMembers : (ms : List (String × Json)) → (done : Json.Members) →
    memberValues? done (ofMembers ms) = some (done.reverse ++ ms)
  | [], done => by simp [ofMembers, memberValues?]
  | (k, v) :: rest, done => by
    simp [ofMembers, memberValues?, value?_ofJson v, memberValues?_ofMembers rest ((k, v) :: done)]

end

theorem whole?_ofJson (j : Json) : (ofJson j).whole? = some (ofJson j) := by
  rw [whole?, value?_ofJson, Option.map_some]

end Source

end CellRecipe.Json
