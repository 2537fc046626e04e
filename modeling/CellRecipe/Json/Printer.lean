import CellRecipe.Decimal.Shortest
import CellRecipe.Json.Value
import CellRecipe.Text.Numeral

/-!
# JSON text

The two written forms of a JSON value: compact, without any blank, and indented by two blanks per
level. Members stand in the order of the object.

A string is written between quotes; the quote, the backslash and the control characters below the
blank are escaped, everything else stands for itself. A double is written with the fewest digits
that read back, positionally from `0.00001` up to below `1e16`.

## Main definitions

* `Json.compact`: the compact text.
* `Json.indented`: the indented text.
-/

namespace CellRecipe

/-- Doubles are positional from `1e-5` to below `1e16`; a large exponent carries its sign. -/
def Json.doubleLayout : Decimal.Shortest.Layout := ⟨16, -4, "+"⟩

/-- The text of a number. -/
def Number.text : Number → String
  | .whole n => toString n
  | .real d => Decimal.Shortest.render Json.doubleLayout d

namespace Json

/-- A character inside a quoted string. -/
def escapeChar (c : Char) : List Char :=
  if c = '\x22' then ['\\', '\x22']
  else if c = '\\' then ['\\', '\\']
  else if c = '\x08' then ['\\', 'b']
  else if c = '\x0c' then ['\\', 'f']
  else if c = '\n' then ['\\', 'n']
  else if c = '\r' then ['\\', 'r']
  else if c = '\t' then ['\\', 't']
  else if c.toNat < 0x20 then 
    ['\\', 'u', '0', '0', Text.hexDigit (c.toNat / 16), Text.hexDigit c.toNat]
  else [c]

/-- A string between quotes. -/
def quoted (s : String) : String :=
  "\"" ++ String.ofList (s.toList.flatMap escapeChar) ++ "\""

/-- The text of a truth value. -/
def boolText (b : Bool) : String := if b then "true" else "false"

mutual

/-- The compact text. -/
def compact : Json → String
  | .null => "null"
  | .bool b => boolText b
  | .number n => n.text
  | .string s => quoted s
  | .array items => "[" ++ String.intercalate "," (compactItems items) ++ "]"
  | .object ms => "\x7b" ++ String.intercalate "," (compactMembers ms) ++ "\x7d"

/-- The compact texts of the items. -/
def compactItems : List Json → List String
  | [] => []
  | x :: rest => compact x :: compactItems rest

/-- The compact texts of the members. -/
def compactMembers : List (String × Json) → List String
  | [] => []
  | (k, v) :: rest => (quoted k ++ ":" ++ compact v) :: compactMembers rest

end

theorem compactItems_eq_map (items : List Json) : compactItems items = items.map compact := by
  induction items with
  | nil => rfl
  | cons x rest ih => rw [compactItems, ih, List.map_cons]

theorem compactMembers_eq_map (ms : List (String × Json)) :
    compactMembers ms = ms.map fun m => quoted m.1 ++ ":" ++ compact m.2 := by
  induction ms with
  | nil => rfl
  | cons m rest ih =>
    obtain ⟨k, v⟩ := m
    rw [compactMembers, ih, List.map_cons]

/-- A line break followed by the indentation of a level. -/
def lineAt (level : Nat) : String := "\n" ++ String.ofList (List.replicate (2 * level) ' ')

/-- Entries between brackets, each on a line of its own one level deeper; nothing at all between
the brackets if there are none. -/
def bracketed (opening closing : String) (level : Nat) (entries : List String) : String :=
  if entries.isEmpty then opening ++ closing
  else
    opening ++ lineAt (level + 1) ++ String.intercalate ("," ++ lineAt (level + 1)) entries
      ++ lineAt level ++ closing

mutual

/-- The indented text of a value that stands at a level. -/
def indentedAt (level : Nat) : Json → String
  | .null => "null"
  | .bool b => boolText b
  | .number n => n.text
  | .string s => quoted s
  | .array items => bracketed "[" "]" level (indentedItems (level + 1) items)
  | .object ms => bracketed "\x7b" "\x7d" level (indentedMembers (level + 1) ms)

/-- The indented texts of the items. -/
def indentedItems (level : Nat) : List Json → List String
  | [] => []
  | x :: rest => indentedAt level x :: indentedItems level rest

/-- The indented texts of the members. -/
def indentedMembers (level : Nat) : List (String × Json) → List String
  | [] => []
  | (k, v) :: rest => (quoted k ++ ": " ++ indentedAt level v) :: indentedMembers level rest

end

/-- The indented text. -/
def indented (j : Json) : String := indentedAt 0 j

end Json

end CellRecipe
