import CellRecipe.Decimal.Shortest
import CellRecipe.Document
import CellRecipe.Json.Printer
import CellRecipe.Yaml.Character
import CellRecipe.Yaml.Scalar

/-!
# YAML text

A document in block style, two blanks per level. Lists under a key are not indented further than the
key, empty lists and records are written in flow style, and a variant is a tag before its content.

A text is plain where that reads back as the same text. One with line breaks is a literal block, one
that would be taken for something else or has an indicator is single quoted, and one with characters
that cannot be printed, or with blanks around a break, is double quoted with escapes. A key that is
longer than 128 bytes or has a line break stands behind a question mark.

## Main definitions

* `Yaml.style`: how a text is written.
* `Yaml.render`: the text of a document.
-/

namespace CellRecipe.Yaml

/-! ## What a text is made of -/

/-- What decides how a text can be written. -/
structure Traits where
  /-- Has the text something that means something else in a plain scalar? -/
  indicators : Bool
  /-- Has the text a line break? -/
  breaks : Bool
  /-- Has the text a character that cannot be printed? -/
  unprintable : Bool
  /-- Does the text start or end with a blank or a break? -/
  padded : Bool
  /-- Does the text end with a blank? -/
  blankAtEnd : Bool
  /-- Has the text a blank after a break? -/
  blankAfterBreak : Bool
  /-- Has the text a blank before a break? -/
  blankBeforeBreak : Bool

/-- Does the character start something else than a plain scalar, wherever it stands first? -/
def isIndicator (c : Char) : Bool :=
  ['#', ',', '[', ']', '\x7b', '\x7d', '&', '*', '!', '|', '>', '\'', '\x22', '%', '@',
    '\x60'].contains c

/-- Does the text start with an indicator? -/
def startsWithIndicator : List Char → Bool
  | [] => false
  | c :: rest =>
    isIndicator c || ((c == '?' || c == ':' || c == '-') && endsWord rest)
      || ['-', '-', '-'].isPrefixOf (c :: rest) || ['.', '.', '.'].isPrefixOf (c :: rest)

/-- Has the rest of a text a colon at the end of a word or a number sign at the start of one? -/
def hasInnerIndicator (afterSpace : Bool) : List Char → Bool
  | [] => false
  | c :: rest =>
    (c == ':' && endsWord rest) || (c == '#' && afterSpace) || hasInnerIndicator (isSpace c) rest

/-- Does one of two characters in a row satisfy `first` and the next one `second`? -/
def hasPair (first second : Char → Bool) : List Char → Bool
  | a :: b :: rest => (first a && second b) || hasPair first second (b :: rest)
  | _ => false

/-- Is there a last character, and does it satisfy `p`? -/
def endsWith (p : Char → Bool) (cs : List Char) : Bool := cs.getLast?.any p

/-- What a text is made of. -/
def traits (cs : List Char) : Traits :=
  let isPad := fun c => c == ' ' || isBreak c
  { indicators := startsWithIndicator cs || hasInnerIndicator (cs.take 1 |>.any isSpace) (cs.drop 1)
    breaks := cs.any isBreak
    unprintable := cs.any fun c => !isPrintable c
    padded := cs.head?.any isPad || endsWith isPad cs
    blankAtEnd := endsWith (· == ' ') cs
    blankAfterBreak := hasPair isBreak (· == ' ') cs
    blankBeforeBreak := hasPair (· == ' ') isBreak cs }

/-! ## Styles -/

/-- The ways to write a text. -/
inductive Style where
  | plain
  | singleQuoted
  | doubleQuoted
  | literal
  deriving DecidableEq

/-- May the text be a plain scalar? -/
def allowsPlain (t : Traits) : Bool :=
  !t.indicators && !t.breaks && !t.unprintable && !t.padded && !t.blankAfterBreak
    && !t.blankBeforeBreak

/-- May the text stand between single quotes? -/
def allowsSingle (t : Traits) : Bool :=
  !t.unprintable && !t.blankAfterBreak && !t.blankBeforeBreak

/-- May the text be a literal block? -/
def allowsLiteral (t : Traits) : Bool := !t.unprintable && !t.blankAtEnd && !t.blankBeforeBreak

/-- How a text is written. -/
def style (cs : List Char) : Style :=
  let t := traits cs
  if cs.contains '\n' then if allowsLiteral t then .literal else .doubleQuoted
  else if allowsPlain t && !Scalar.isAmbiguous cs then .plain
  else if allowsSingle t then .singleQuoted
  else .doubleQuoted

/-! ## Lines -/

/-- Blanks at the start of a line. -/
def spaces (n : Nat) : List Char := List.replicate n ' '

/-- Text and then, on a line of its own that is indented by `n`, more text. -/
def lineAfter (before : List Char) (n : Nat) (after : List Char) : List Char :=
  (if endsWith isBreak before then before else before ++ ['\n']) ++ spaces n ++ after

/-- Pieces of text, each on a line of its own that is indented by `n`, the first one excepted. -/
def joinLines (n : Nat) : List (List Char) → List Char
  | [] => []
  | [piece] => piece
  | piece :: rest => lineAfter piece n (joinLines n rest)

/-! ## Texts -/

/-- The `width` upper case hexadecimal digits of a number. -/
def hexDigits (width n : Nat) : List Char :=
  let digits := (Nat.toDigits 16 n).map Char.toUpper
  List.replicate (width - digits.length) '0' ++ digits

/-- A character between double quotes. -/
def escapeChar (c : Char) : List Char :=
  if isPrintable c && !isBreak c && c != '\x22' && c != '\\' then [c]
  else
    match c.toNat with
    | 0x00 => ['\\', '0']
    | 0x07 => ['\\', 'a']
    | 0x08 => ['\\', 'b']
    | 0x09 => ['\\', 't']
    | 0x0A => ['\\', 'n']
    | 0x0B => ['\\', 'v']
    | 0x0C => ['\\', 'f']
    | 0x0D => ['\\', 'r']
    | 0x1B => ['\\', 'e']
    | 0x22 => ['\\', '\x22']
    | 0x5C => ['\\', '\\']
    | 0x85 => ['\\', 'N']
    | 0xA0 => ['\\', '_']
    | 0x2028 => ['\\', 'L']
    | 0x2029 => ['\\', 'P']
    | n =>
      if n ≤ 0xFF then ['\\', 'x'] ++ hexDigits 2 n
      else if n ≤ 0xFFFF then ['\\', 'u'] ++ hexDigits 4 n
      else ['\\', 'U'] ++ hexDigits 8 n

/-- A text between double quotes. -/
def doubleQuoted (cs : List Char) : List Char := ['\x22'] ++ cs.flatMap escapeChar ++ ['\x22']

/-- A character between single quotes, on a line that continues at `n` if it follows a break. -/
def singleQuotedFrom (n : Nat) (afterBreak : Bool) : List Char → List Char
  | [] => if afterBreak then spaces n else []
  | c :: rest =>
    if isBreak c then
      (if c == '\n' && !afterBreak then ['\n', '\n'] else [c]) ++ singleQuotedFrom n true rest
    else
      (if afterBreak then spaces n else []) ++ (if c == '\'' then ['\'', '\''] else [c])
        ++ singleQuotedFrom n false rest

/-- A text between single quotes. -/
def singleQuoted (n : Nat) (cs : List Char) : List Char :=
  ['\''] ++ singleQuotedFrom n false cs ++ ['\'']

/-- The lines of a block, each indented by `n`. -/
def blockLines (n : Nat) (afterBreak : Bool) : List Char → List Char
  | [] => []
  | c :: rest =>
    if isBreak c then c :: blockLines n true rest
    else (if afterBreak then spaces n else []) ++ c :: blockLines n false rest

/-- What becomes of the breaks at the end of a block: `-` drops them, `+` keeps all. -/
def chomping (cs : List Char) : List Char :=
  match cs.reverse with
  | [] => ['-']
  | [c] => if isBreak c then ['+'] else ['-']
  | c :: d :: _ => if isBreak c then if isBreak d then ['+'] else [] else ['-']

/-- The indentation of a block, given where its first line starts with a blank or a break. -/
def indentationHint (cs : List Char) : List Char :=
  if cs.head?.any fun c => c == ' ' || isBreak c then ['2'] else []

/-- A text as a literal block whose lines are indented by `n`. -/
def literal (n : Nat) (cs : List Char) : List Char :=
  ['|'] ++ indentationHint cs ++ chomping cs ++ ['\n'] ++ blockLines n true cs

/-- A text in its style; lines after the first are indented by `n`. -/
def textChars (n : Nat) (cs : List Char) : List Char :=
  match style cs with
  | .plain => cs
  | .singleQuoted => singleQuoted n cs
  | .doubleQuoted => doubleQuoted cs
  | .literal => literal n cs

/-- Can the text stand before the colon on one line? -/
def isSimpleKey (s : String) : Bool := s.utf8ByteSize ≤ 128 && !s.toList.any isBreak

/-! ## Documents -/

/-- Doubles are positional from `1e-5` to below `1e16`; an exponent has a sign only if negative. -/
def doubleLayout : Decimal.Shortest.Layout := ⟨16, -4, ""⟩

/-- The text of a number. -/
def numberText : Number → String
  | .whole n => toString n
  | .real d => Decimal.Shortest.render doubleLayout d

/-- Where a value is written. -/
structure Place where
  /-- Does the value's block start on the line at hand? -/
  onLine : Bool
  listIndent : Nat
  recordIndent : Nat
  textIndent : Nat

namespace Place

/-- The place of a whole document. -/
def root : Place := ⟨true, 0, 0, 2⟩

/-- The place after a dash or a question mark that is indented by `n`. -/
def afterMark (n : Nat) : Place := ⟨true, n + 2, n + 2, n + 2⟩

/-- The place after a key that is indented by `n`. -/
def afterKey (n : Nat) : Place := ⟨false, n, n + 2, n + 2⟩

/-- The place after a tag. -/
def afterTag (p : Place) : Place := { p with onLine := false }

/-- What separates a value on the same line from what is before it. -/
def gap (p : Place) : List Char := if p.onLine then [] else [' ']

/-- What comes before a block whose lines are indented by `n`. -/
def start (p : Place) (n : Nat) : List Char := if p.onLine then [] else '\n' :: spaces n

end Place

mutual

/-- A value at its place. -/
def value (p : Place) : Document → List Char
  | .null => p.gap ++ "null".toList
  | .bool b => p.gap ++ (Json.boolText b).toList
  | .number k => p.gap ++ (numberText k).toList
  | .text s => p.gap ++ textChars p.textIndent s.toList
  | .list items =>
    if items.isEmpty then p.gap ++ ['[', ']']
    else p.start p.listIndent ++ joinLines p.listIndent (listItems p.listIndent items)
  | .record ms =>
    if ms.isEmpty then p.gap ++ ['\x7b', '\x7d']
    else p.start p.recordIndent ++ joinLines p.recordIndent (recordEntries p.recordIndent ms)
  | .variant name content => p.gap ++ '!' :: name.toList ++ value p.afterTag content

/-- The items of a list whose dashes are indented by `n`. -/
def listItems (n : Nat) : List Document → List (List Char)
  | [] => []
  | x :: rest => (['-', ' '] ++ value (.afterMark n) x) :: listItems n rest

/-- The entries of a record whose keys are indented by `n`. -/
def recordEntries (n : Nat) : List (String × Document) → List (List Char)
  | [] => []
  | (k, v) :: rest =>
    let key := textChars (n + 2) k.toList
    (if isSimpleKey k then key ++ [':'] ++ value (.afterKey n) v
      else lineAfter (['?', ' '] ++ key) n ([':', ' '] ++ value (.afterMark n) v))
      :: recordEntries n rest

end

/-- The text of a document, with a break at its end. -/
def render (d : Document) : String := String.ofList (lineAfter (value .root d) 0 [])

end CellRecipe.Yaml
