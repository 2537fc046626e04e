import CellRecipe.Json.Source
import CellRecipe.Text.Numeral

/-!
# Tokens of JSON text

The parts of a text that hold no other parts: the three words, numbers and strings. A token is taken
from the text by its grammar alone, in which a leading zero, a raw control character inside a string
and an unknown escape have no place. What it denotes is asked later (`Token.source`), and some
tokens denote nothing: a number beyond the largest double, and a string with an unpaired surrogate.

An integer of 64 bits stays an integer, also a negative one; any other number is a double, and so is
`-0`. Of the digits of a double only those that fit into 64 bits count; the number they form is
rounded and then scaled by its power of ten (`Double.scaled`).

## Main definitions

* `Json.token`: the token at the head of a text.
* `Json.Token.source`: what a token denotes.
-/

namespace CellRecipe.Json

/-- The largest natural number of 64 bits. -/
def maxWord : Nat := UInt64.size - 1

/-- Is the character a blank between tokens? -/
def isGap (c : Char) : Bool := c = ' ' || c = '\n' || c = '\t' || c = '\r'

/-- The characters from the first that is no blank. -/
def skipGaps (cs : List Char) : List Char := cs.dropWhile isGap

/-! ## Numbers -/

/-- The characters of a number: digits before the point, digits after it, and the exponent. -/
structure Literal where
  negative : Bool
  whole : List Char
  fraction : List Char
  /-- The exponent's sign and digits. -/
  power : Option (Bool × List Char)

/-- The digits at the head, if there is one, and what follows them. -/
def digits1 (cs : List Char) : Option (List Char × List Char) :=
  let (ds, rest) := cs.span Text.isDigit
  if ds.isEmpty then none else some (ds, rest)

/-- Digits before the point: a lone zero, or digits that start with another one. -/
def wholeDigits (cs : List Char) : Option (List Char × List Char) :=
  match digits1 cs with
  | some (['0'], rest) => some (['0'], rest)
  | some ('0' :: _, _) => none
  | found => found

/-- The digits after a point, if there is one. -/
def fractionDigits : List Char → Option (List Char × List Char)
  | '.' :: rest => digits1 rest
  | cs => some ([], cs)

/-- The sign and digits of an exponent, if there is one. -/
def exponentDigits : List Char → Option (Option (Bool × List Char) × List Char)
  | c :: rest =>
    if c = 'e' || c = 'E' then
      let (negative, rest) := match rest with
        | '-' :: rest => (true, rest)
        | '+' :: rest => (false, rest)
        | rest => (false, rest)
      (digits1 rest).map fun (ds, rest) => (some (negative, ds), rest)
    else some (none, c :: rest)
  | [] => some (none, [])

/-- The number literal at the head. -/
def literal (cs : List Char) : Option (Literal × List Char) := do
  let (negative, cs) := match cs with
    | '-' :: rest => (true, rest)
    | cs => (false, cs)
  let (whole, cs) ← wholeDigits cs
  let (fraction, cs) ← fractionDigits cs
  let (power, cs) ← exponentDigits cs
  return (⟨negative, whole, fraction, power⟩, cs)

/-- Reads digits into a 64 bit significand: the significand and how many digits were left out from
the first that no longer fits. -/
def fill (significand : Nat) : List Char → Nat × Nat
  | [] => (significand, 0)
  | c :: rest =>
    let next := 10 * significand + Text.digitValue c
    if next ≤ maxWord then fill next rest else (significand, rest.length + 1)

/-- The double that a literal denotes. -/
def Literal.double? (l : Literal) : Option Decimal.Double :=
  let (significand, dropped) := fill 0 l.whole
  let (significand, unread) := fill significand l.fraction
  let shift : Int := (dropped : Int) - (l.fraction.length - unread : Nat)
  match l.power with
  | none => Decimal.Double.scaled l.negative significand shift
  | some (negative, ds) =>
    let e := Text.cappedValue Int32.size ds
    if Int32.maxValue.toInt < e then
      if significand ≠ 0 ∧ !negative then none else some (.zero l.negative)
    else Decimal.Double.scaled l.negative significand (if negative then shift - e else shift + e)

/-- The integer of 64 bits that a literal denotes, if it does. -/
def Literal.integer? (l : Literal) : Option Int :=
  let n := Text.cappedValue UInt64.size l.whole
  if !l.fraction.isEmpty || l.power.isSome then none
  else if l.negative then if 0 < n ∧ Int64.minValue.toInt ≤ -(n : Int) then some (-n) else none
  else if n ≤ maxWord then some n
  else none

/-- The number that a literal denotes. -/
def Literal.number? (l : Literal) : Option Number :=
  match l.integer? with
  | some n => some (.whole n)
  | none => l.double?.map .real

/-! ## Strings -/

/-- The number written by the four hexadecimal digits at the head. -/
def hexQuad : List Char → Option (Nat × List Char)
  | a :: b :: c :: d :: rest => do
    let a ← Text.hexDigitValue? a
    let b ← Text.hexDigitValue? b
    let c ← Text.hexDigitValue? c
    let d ← Text.hexDigitValue? d
    return (((a * 16 + b) * 16 + c) * 16 + d, rest)
  | _ => none

/-- The character of a pair of surrogates. -/
def paired (high low : Nat) : Char :=
  Char.ofNat (0x10000 + (high - 0xD800) * 0x400 + (low - 0xDC00))

/-- The character after `\u`: one quad, or a high surrogate and the low one of the next escape. A
surrogate without its other half denotes nothing, and ends after its own quad. -/
def unicodeEscape (cs : List Char) : Option (Option Char × List Char) := do
  let (n, rest) ← hexQuad cs
  if 0xD800 ≤ n ∧ n ≤ 0xDBFF then
    match rest with
    | '\\' :: 'u' :: next =>
      let (low, after) ← hexQuad next
      if 0xDC00 ≤ low ∧ low ≤ 0xDFFF then return (some (paired n low), after)
      else return (none, rest)
    | _ => return (none, rest)
  else if 0xDC00 ≤ n ∧ n ≤ 0xDFFF then return (none, rest)
  else return (some (Char.ofNat n), rest)

/-- The character that the escape after a backslash denotes, if it denotes one. -/
def escape : List Char → Option (Option Char × List Char)
  | 'u' :: rest => unicodeEscape rest
  | c :: rest =>
    if c = '\x22' ∨ c = '\\' ∨ c = '/' then some (some c, rest)
    else if c = 'b' then some (some '\x08', rest)
    else if c = 'f' then some (some '\x0c', rest)
    else if c = 'n' then some (some '\n', rest)
    else if c = 'r' then some (some '\r', rest)
    else if c = 't' then some (some '\t', rest)
    else none
  | [] => none

/-- What follows a string whose opening quote has been read. -/
def afterString : (fuel : Nat) → List Char → Option (List Char)
  | 0, _ => none
  | fuel + 1, c :: rest =>
    if c = '\x22' then some rest
    else if c = '\\' then
      match escape rest with
      | some (_, rest) => afterString fuel rest
      | none => none
    else if c.toNat < 0x20 then none
    else afterString fuel rest
  | _ + 1, [] => none

/-- The string whose opening quote has been read, if it denotes one; `read` holds its characters,
last one first. Each step of `fuel` reads at least one character. -/
def stringTail (read : List Char) : (fuel : Nat) → List Char → Option (Option String × List Char)
  | 0, _ => none
  | fuel + 1, c :: rest =>
    if c = '\x22' then some (some (String.ofList read.reverse), rest)
    else if c = '\\' then
      match escape rest with
      | some (some e, rest) => stringTail (e :: read) fuel rest
      | some (none, rest) => (afterString fuel rest).map fun rest => (none, rest)
      | none => none
    else if c.toNat < 0x20 then none
    else stringTail (c :: read) fuel rest
  | _ + 1, [] => none

/-- The string at the head, for a `fuel` above the count of characters. -/
def stringLiteral (fuel : Nat) : List Char → Option (Option String × List Char)
  | '\x22' :: rest => stringTail [] fuel rest
  | _ => none

/-! ## Tokens -/

/-- A part of a text that holds no other parts. -/
inductive Token where
  | null
  | bool (value : Bool)
  | number (literal : Literal)
  | string (value : Option String)

/-- What a token denotes. -/
def Token.source : Token → Source
  | .null => .null
  | .bool b => .bool b
  | .number l => (l.number?.map Source.number).getD .unread
  | .string s => (s.map Source.string).getD .unread

/-- The characters after a word at the head. -/
def afterWord (word cs : List Char) : Option (List Char) :=
  if word.isPrefixOf cs then some (cs.drop word.length) else none

/-- The token at the head, for a `fuel` above the count of characters. -/
def token (fuel : Nat) : List Char → Option (Token × List Char)
  | [] => none
  | c :: rest =>
    if c = '\x22' then (stringTail [] fuel rest).map fun (s, rest) => (.string s, rest)
    else if c = 'n' then (afterWord "null".toList (c :: rest)).map fun rest => (.null, rest)
    else if c = 't' then (afterWord "true".toList (c :: rest)).map fun rest => (.bool true, rest)
    else if c = 'f' then (afterWord "false".toList (c :: rest)).map fun rest => (.bool false, rest)
    else (literal (c :: rest)).map fun (l, rest) => (.number l, rest)

end CellRecipe.Json
