import CellRecipe.Yaml.Character

/-!
# Tokens of YAML

The words of a text and the marks of its structure. Indentation is made visible: a block opens with
a token of its own and closes with another.

Every character of a text is read together with its position, so that rules about columns and lines
can be told from the characters alone.

## Main definitions

* `Token`: the tokens.
* `Marked`, `positioned`: characters with their positions.
-/

namespace CellRecipe.Yaml

/-- How a scalar was written. -/
inductive ScalarStyle where
  | plain
  | quoted
  | literal
  | folded
  deriving DecidableEq, Inhabited

/-- A word or a mark of structure. -/
inductive Token where
  | versionDirective (major minor : Nat)
  | tagDirective (handle start : String)
  | documentStart
  | documentEnd
  | blockSequenceStart
  | blockMappingStart
  | blockEnd
  | flowSequenceStart
  | flowSequenceEnd
  | flowMappingStart
  | flowMappingEnd
  | blockEntry
  | flowEntry
  | key
  | value
  | aliasFor (name : String)
  | anchor (name : String)
  | tag (handle ending : String)
  | scalar (text : String) (style : ScalarStyle)
  deriving DecidableEq, Inhabited

/-! ## Positions -/

/-- Where a character stands: bytes before it, lines before it and characters before it on its
line. -/
structure Position where
  offset : Nat
  line : Nat
  column : Nat
  deriving DecidableEq, Inhabited

/-- A character and its position. -/
abbrev Marked := Char × Position

/-- The characters with their positions; a carriage return and a line feed are one break. -/
def positionedFrom (p : Position) : List Char → List Marked
  | [] => []
  | '\r' :: '\n' :: rest =>
    ('\r', p) :: ('\n', ⟨p.offset + 1, p.line, p.column + 1⟩)
      :: positionedFrom ⟨p.offset + 2, p.line + 1, 0⟩ rest
  | c :: rest =>
    (c, p) :: positionedFrom
      (if isBreak c then ⟨p.offset + c.utf8Size, p.line + 1, 0⟩
        else ⟨p.offset + c.utf8Size, p.line, p.column + 1⟩) rest

/-- The characters of a text with their positions. -/
def positioned (cs : List Char) : List Marked := positionedFrom ⟨0, 0, 0⟩ cs

/-! ## Looking ahead -/

/-- The character at the head. -/
def head? (cs : List Marked) : Option Char := cs.head?.map (·.1)

/-- The characters without their positions, no more than are asked for. -/
def peek (count : Nat) (cs : List Marked) : List Char := (cs.take count).map (·.1)

/-- Is there a blank or a break at the head, or nothing? -/
def atWordEnd (cs : List Marked) : Bool := (head? cs).all isSpace

/-- Is there a break at the head, or nothing? -/
def atLineEnd (cs : List Marked) : Bool := (head? cs).all isBreak

/-- Is there the mark of a new document or of the end of one at the head? -/
def atDocumentMark : List Marked → Bool
  | (a, p) :: (b, _) :: (c, _) :: rest =>
    p.column == 0 && ([a, b, c] == ['-', '-', '-'] || [a, b, c] == ['.', '.', '.'])
      && atWordEnd rest
  | _ => false

/-- A break as it is kept in a text: the two that only Unicode has stay, any other is a line
feed. -/
def keptBreak (c : Char) : Char := if c == '\u2028' || c == '\u2029' then c else '\n'

/-- The break at the head as it is kept in a text, and what follows it. -/
def takeBreak? : List Marked → Option (Char × List Marked)
  | ('\r', _) :: ('\n', _) :: rest => some ('\n', rest)
  | (c, _) :: rest => if isBreak c then some (keptBreak c, rest) else none
  | [] => none

/-- What follows the blanks at the head. -/
def dropBlanks (cs : List Marked) : List Marked := cs.dropWhile fun c => isBlank c.1

/-- What follows the rest of the line, the break not included. -/
def dropLine (cs : List Marked) : List Marked := cs.dropWhile fun c => !isBreak c.1

/-- What follows a comment at the head, the break not included. -/
def dropComment (cs : List Marked) : List Marked :=
  if head? cs = some '#' then dropLine cs else cs

end CellRecipe.Yaml
