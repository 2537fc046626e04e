import CellRecipe.Text.Numeral
import CellRecipe.Yaml.Token

/-!
# Tags, anchors and directives of YAML

Reading what stands before a node or a document: the name of an anchor, a tag with its handle, and
the two directives. The characters of a tag may be given by their bytes in hexadecimal.
-/

namespace CellRecipe.Yaml

/-! ## Names -/

/-- A name at the head, at least one character long. -/
def word? (cs : List Marked) : Option (String × List Marked) :=
  let name := cs.takeWhile fun c => isWordChar c.1
  if name.isEmpty then none
  else some (String.ofList (name.map (·.1)), cs.dropWhile fun c => isWordChar c.1)

/-- Can what follows the name of an anchor end it? -/
def endsAnchor (cs : List Marked) : Bool :=
  (head? cs).all fun c => isSpace c || ['?', ':', ',', ']', '\x7d', '%', '@', '\x60'].contains c

/-- The name of an anchor or an alias, from after its mark. -/
def anchorName? (cs : List Marked) : Option (String × List Marked) := do
  let (name, rest) ← word? cs
  if endsAnchor rest then some (name, rest) else none

/-! ## Tags -/

/-- The bytes of the escapes at the head. -/
def escapedBytes? (found : List UInt8) : List Marked → Option (List UInt8 × List Marked)
  | ('%', _) :: (a, _) :: (b, _) :: rest => do
    let high ← Text.hexDigitValue? a
    let low ← Text.hexDigitValue? b
    escapedBytes? (UInt8.ofNat (16 * high + low) :: found) rest
  | ('%', _) :: _ => none
  | cs => some (found, cs)

/-- May the character stand in a tag? Commas and brackets may only inside angle brackets. -/
def isTagChar (verbatim : Bool) (c : Char) : Bool :=
  isWordChar c || [';', '/', '?', ':', '@', '&', '=', '+', '$', '.', '!', '~', '*', '\'', '(',
    ')'].contains c || (verbatim && [',', '[', ']'].contains c)

/-- The characters of a tag at the head, at most `fuel` runs of them, after the ones in `found`. -/
def tagChars? (verbatim : Bool) (found : List Char) :
    (fuel : Nat) → List Marked → Option (List Char × List Marked)
  | 0, cs => some (found, cs)
  | _ + 1, [] => some (found, [])
  | fuel + 1, (c, p) :: rest =>
    if c == '%' then do
      let (bytes, after) ← escapedBytes? [] ((c, p) :: rest)
      let text ← String.fromUTF8? ⟨bytes.reverse.toArray⟩
      tagChars? verbatim (found ++ text.toList) fuel after
    else if isTagChar verbatim c then tagChars? verbatim (found ++ [c]) fuel rest
    else some (found, (c, p) :: rest)

/-- The characters of a tag at the head; there have to be some, those in `found` included. -/
def tagText? (verbatim : Bool) (found : List Char) (cs : List Marked) :
    Option (List Char × List Marked) := do
  let (text, rest) ← tagChars? verbatim found (cs.length + 1) cs
  if text.isEmpty then none else some (text, rest)

/-- A handle: an exclamation mark, and maybe a name and another mark. -/
def tagHandle? : List Marked → Option (List Char × List Marked)
  | ('!', _) :: rest =>
    let name := (rest.takeWhile fun c => isWordChar c.1).map (·.1)
    match rest.dropWhile fun c => isWordChar c.1 with
    | ('!', _) :: after => some ('!' :: name ++ ['!'], after)
    | after => some ('!' :: name, after)
  | _ => none

/-- Is the handle more than one exclamation mark, the last character being one too? -/
def isNamedHandle (handle : List Char) : Bool :=
  decide (2 ≤ handle.length) && handle.getLast? == some '!'

/-- A tag that is written in full, between angle brackets. -/
def verbatimTag? (cs : List Marked) : Option (Token × List Marked) := do
  let (text, rest) ← tagText? true [] cs
  match rest with
  | ('>', _) :: after => return (.tag "" (String.ofList text), after)
  | _ => none

/-- A tag with a handle. -/
def handledTag? (cs : List Marked) : Option (Token × List Marked) := do
  let (handle, rest) ← tagHandle? cs
  if isNamedHandle handle then
    let (text, after) ← tagText? false [] rest
    return (.tag (String.ofList handle) (String.ofList text), after)
  else
    let (text, after) ← tagChars? false (handle.drop 1) (rest.length + 1) rest
    if text.isEmpty then return (.tag "" "!", after)
    else return (.tag "!" (String.ofList text), after)

/-- A tag, which has to be followed by a blank or, inside a flow collection, a comma. -/
def tag? (flow : Bool) (cs : List Marked) : Option (Token × List Marked) := do
  let (token, rest) ←
    match cs with
    | ('!', _) :: ('<', _) :: after => verbatimTag? after
    | _ => handledTag? cs
  if (flow && head? rest == some ',') || atWordEnd rest then some (token, rest) else none

/-! ## Directives -/

/-- A number of at most nine digits. -/
def versionNumber? (cs : List Marked) : Option (Nat × List Marked) :=
  let digits := (cs.takeWhile fun c => Text.isDigit c.1).map (·.1)
  if digits.isEmpty || 9 < digits.length then none
  else some (Text.digitsValue digits,
    cs.dropWhile fun c => Text.isDigit c.1)

/-- The version of a version directive. -/
def versionDirective? (cs : List Marked) : Option (Token × List Marked) := do
  let (major, rest) ← versionNumber? (dropBlanks cs)
  match rest with
  | ('.', _) :: after =>
    let (minor, rest) ← versionNumber? after
    return (.versionDirective major minor, rest)
  | _ => none

/-- The handle of a tag directive and what it stands for. -/
def tagDirective? (cs : List Marked) : Option (Token × List Marked) := do
  let (handle, rest) ← tagHandle? (dropBlanks cs)
  if handle ≠ ['!'] && handle.getLast? ≠ some '!' then none
  if !(head? rest).any isBlank then none
  let (text, rest) ← tagText? true [] (dropBlanks rest)
  if !atWordEnd rest then none
  return (.tagDirective (String.ofList handle) (String.ofList text), rest)

/-- A directive, from after its percent sign to the end of its line. -/
def directive? (cs : List Marked) : Option (Token × List Marked) := do
  let (name, rest) ← word? cs
  if !atWordEnd rest then none
  let (token, rest) ←
    match name with
    | "YAML" => versionDirective? rest
    | "TAG" => tagDirective? rest
    | _ => none
  let rest := dropComment (dropBlanks rest)
  if atLineEnd rest then some (token, rest) else none

end CellRecipe.Yaml
