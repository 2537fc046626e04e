import CellRecipe.Text.Character

/-!
# Characters of YAML

The classes of characters by which YAML text is read and written. A line ends at a line feed, a
carriage return or one of the three breaks beyond ASCII; blanks inside a line are spaces and tabs.
-/

namespace CellRecipe.Yaml

/-- The byte order mark. -/
def byteOrderMark : Char := '\uFEFF'

/-- Does the character break a line? -/
def isBreak (c : Char) : Bool :=
  c == '\n' || c == '\r' || c == '\u0085' || c == '\u2028' || c == '\u2029'

/-- Is the character a space or a tab? -/
def isBlank (c : Char) : Bool := c == ' ' || c == '\t'

/-- Is the character a blank or a line break? -/
def isSpace (c : Char) : Bool := isBlank c || isBreak c

/-- May the character stand in a text at all? -/
def isAllowed (c : Char) : Bool :=
  let n := c.toNat
  n == 0x09 || n == 0x0A || n == 0x0D || (0x20 ≤ n && n ≤ 0x7E) || n == 0x85
    || (0xA0 ≤ n && n ≤ 0xFFFD) || 0x10000 ≤ n

/-- Is the character written as it is? Tabs and most line breaks are not. -/
def isPrintable (c : Char) : Bool :=
  let n := c.toNat
  n == 0x0A || (0x20 ≤ n && n ≤ 0x7E) || (0xA0 ≤ n && n ≤ 0xFFFD && n != 0xFEFF) || 0x10000 ≤ n

/-- May the character stand in the name of an anchor or a handle? -/
def isWordChar (c : Char) : Bool :=
  Text.isLower c || Text.isUpper c || Text.isDigit c || c == '_' || c == '-'

/-- Does the text go on with a blank or a break, or end? -/
def endsWord : List Char → Bool
  | [] => true
  | c :: _ => isSpace c

end CellRecipe.Yaml
