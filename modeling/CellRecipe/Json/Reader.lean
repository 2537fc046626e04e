import CellRecipe.Json.Token

/-!
# Reading JSON text

A text is read as one document: a value with blanks around it and nothing else. Accepted is exactly
the grammar of the format; a byte order mark, a comment and a trailing comma have no place in it.

Whatever is well formed has a source. More than `maxDepth` nested arrays and objects denote nothing,
and neither does an object with a key that denotes nothing. Nothing is kept of such a part, and it
may be nested as deeply as it likes: `pass` goes through it with the open brackets as its only
memory.

## Main definitions

* `Json.Source.parse?`: the source of a text.
* `Json.parse?`: the value that a text denotes.
-/

namespace CellRecipe.Json

/-- How many arrays and objects may be nested. -/
def maxDepth : Nat := 127

/-! ## Passing over text -/

/-- What is open around a place in a text. -/
inductive Bracket where
  | array
  | object
  deriving DecidableEq

/-- What is left after the colon at the head. -/
def afterColon (cs : List Char) : Option (List Char) :=
  match skipGaps cs with
  | ':' :: rest => some (skipGaps rest)
  | _ => none

namespace Bracket

/-- The bracket that a character opens. -/
def ofOpening? : Char → Option Bracket
  | '[' => some .array
  | '{' => some .object
  | _ => none

/-- The character that closes a bracket. -/
def closing : Bracket → Char
  | .array => ']'
  | .object => '}'

/-- The place of the next value: in an object it stands after a key. -/
def next (fuel : Nat) : Bracket → List Char → Option (List Char)
  | .array, cs => some cs
  | .object, cs => do
    let (_, rest) ← stringLiteral fuel cs
    afterColon rest

end Bracket

/-- The place of the next value after the end of one, and what is open there; nothing is open once
all is closed. -/
def proceed (fuel : Nat) : List Bracket → List Char → Option (List Bracket × List Char)
  | [], cs => some ([], cs)
  | b :: outer, cs =>
    match skipGaps cs with
    | [] => none
    | c :: rest =>
      if c = ',' then (b.next fuel (skipGaps rest)).map fun rest => (b :: outer, rest)
      else if c = b.closing then proceed fuel outer rest
      else none

/-- The place of the next value after the start of one, and what is open there. -/
def enter (fuel : Nat) (opened : List Bracket) : List Char → Option (List Bracket × List Char)
  | [] => none
  | c :: rest =>
    match Bracket.ofOpening? c with
    | some b =>
      match skipGaps rest with
      | [] => none
      | d :: inner =>
        if d = b.closing then proceed fuel opened inner
        else (b.next fuel (d :: inner)).map fun rest => (b :: opened, rest)
    | none =>
      match token fuel (c :: rest) with
      | some (_, rest) => proceed fuel opened rest
      | none => none

/-- What follows the value at the head and all that is open around it. Each step of `fuel` reads at
least one character. -/
def pass : (fuel : Nat) → List Bracket → List Char → Option (List Char)
  | 0, _, _ => none
  | fuel + 1, opened, cs =>
    match enter fuel opened cs with
    | some ([], rest) => some rest
    | some (b :: outer, rest) => pass fuel (b :: outer) rest
    | none => none

/-! ## Values -/

/-- What follows the value at the head and all that is open around it, all of it unread. -/
def unreadIn (fuel : Nat) (opened : List Bracket) (cs : List Char) : Option (Source × List Char) :=
  (pass fuel opened cs).map fun rest => (.unread, rest)

mutual

/-- The value at the head, with `depth` levels of nesting left. Two steps of `fuel` read at least
one character, so twice the count of characters is always enough. -/
def value (depth : Nat) : (fuel : Nat) → List Char → Option (Source × List Char)
  | 0, _ => none
  | _ + 1, [] => none
  | fuel + 1, c :: rest =>
    match Bracket.ofOpening? c, depth with
    | some _, 0 => unreadIn fuel [] (c :: rest)
    | some .array, depth + 1 =>
      match skipGaps rest with
      | ']' :: rest => some (.array [], rest)
      | rest => items depth [] fuel rest
    | some .object, depth + 1 =>
      match skipGaps rest with
      | '}' :: rest => some (.object [], rest)
      | rest => members depth [] fuel rest
    | none, _ => (token fuel (c :: rest)).map fun (t, rest) => (t.source, rest)

/-- The items of an array up to its closing bracket; `read` holds those before, last one first. -/
def items (depth : Nat) (read : List Source) : (fuel : Nat) → List Char →
    Option (Source × List Char)
  | 0, _ => none
  | fuel + 1, cs => do
    let (x, rest) ← value depth fuel cs
    match skipGaps rest with
    | ',' :: rest => items depth (x :: read) fuel (skipGaps rest)
    | ']' :: rest => some (.array (x :: read).reverse, rest)
    | _ => none

/-- The members of an object up to its closing brace; `read` holds those before, last one first. -/
def members (depth : Nat) (read : Source.Members) : (fuel : Nat) → List Char →
    Option (Source × List Char)
  | 0, _ => none
  | fuel + 1, cs => do
    let (key, rest) ← stringLiteral fuel cs
    let rest ← afterColon rest
    match key with
    | none => unreadIn fuel [.object] rest
    | some k =>
      let (v, rest) ← value depth fuel rest
      match skipGaps rest with
      | ',' :: rest => members depth ((k, v) :: read) fuel (skipGaps rest)
      | '}' :: rest => some (.object ((k, v) :: read).reverse, rest)
      | _ => none

end

/-- The source of a text, if the text is well formed. -/
def Source.parse? (text : String) : Option Source :=
  let cs := skipGaps text.toList
  match value maxDepth (2 * cs.length + 2) cs with
  | some (s, rest) => if (skipGaps rest).isEmpty then some s else none
  | none => none

/-- The value that a text denotes. -/
def parse? (text : String) : Option Json := (Source.parse? text).bind Source.value?

end CellRecipe.Json
