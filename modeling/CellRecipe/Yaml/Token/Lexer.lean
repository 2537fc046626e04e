import CellRecipe.Yaml.Token.Scalar
import CellRecipe.Yaml.Token.Tag

/-!
# From text to tokens

The tokens of a text, or nothing if a word is malformed or out of place. The structure of blocks is
told from the columns: a token to the right of the block at hand opens a new block, one to the left
closes the blocks that it leaves.

A key needs no mark in front, so whether something is a key is known only at the colon behind it.
The place of a possible key is remembered until then; it has to be on the same line, no more than
1024 bytes back. What a colon adds in front of a key is kept apart from the tokens, so that tokens
are only ever added at the end, and put in its place when all is read.

## Main definitions

* `tokens?`: the tokens of a text.
-/

namespace CellRecipe.Yaml

/-- The place of a possible key. -/
structure PendingKey where
  /-- How many tokens there were before the key. -/
  place : Nat
  /-- Does the place admit nothing but a key? -/
  required : Bool
  position : Position

/-- What has been read of a text. -/
structure Lexer where
  /-- The tokens, last one first. -/
  tokens : List Token := []
  count : Nat := 0
  /-- The tokens that belong before the token of the given number. -/
  inserted : List (Nat × List Token) := []
  indent : Int := -1
  outerIndents : List Int := []
  /-- The possible key of the block at hand and of each flow collection, innermost first. -/
  pending : Option PendingKey := none
  outerPending : List (Option PendingKey) := []
  keyAllowed : Bool := true

namespace Lexer

/-- Is a flow collection open? -/
def inFlow (l : Lexer) : Bool := !l.outerPending.isEmpty

/-- One more token. -/
def add (l : Lexer) (t : Token) : Lexer :=
  { l with tokens := t :: l.tokens, count := l.count + 1 }

/-! ## Possible keys -/

/-- Is the key too far back from the position? -/
def isStale (at_ : Position) (k : PendingKey) : Bool :=
  k.position.line < at_.line || k.position.offset + 1024 < at_.offset

/-- A possible key that is still one at the position; a required one must be. -/
def fresh? (at_ : Position) : Option PendingKey → Option (Option PendingKey)
  | none => some none
  | some k => if isStale at_ k then if k.required then none else some none else some (some k)

/-- The possible keys that are still ones at the position. -/
def dropStale? (l : Lexer) (at_ : Position) : Option Lexer := do
  let outer ← l.outerPending.mapM (fresh? at_)
  return { l with pending := ← fresh? at_ l.pending, outerPending := outer }

/-- The possible key is none; a required one must not be given up. -/
def forgetKey? (l : Lexer) : Option Lexer :=
  if l.pending.any (·.required) then none else some { l with pending := none }

/-- A key is possible at the position, if one is allowed there. -/
def noteKey? (l : Lexer) (at_ : Position) : Option Lexer :=
  if l.keyAllowed then do
    let required := !l.inFlow && l.indent == (at_.column : Int)
    return { ← l.forgetKey? with pending := some ⟨l.count, required, at_⟩ }
  else some l

/-! ## Blocks -/

/-- Closes the blocks to the right of the column. -/
def closeBlocks (l : Lexer) (column : Int) : Lexer :=
  if l.inFlow then l
  else
    let inner := (l.indent :: l.outerIndents).takeWhile fun i => column < i
    let kept := (l.indent :: l.outerIndents).dropWhile fun i => column < i
    { l with
      tokens := inner.map (fun _ => Token.blockEnd) ++ l.tokens
      count := l.count + inner.length
      indent := kept.headD (-1)
      outerIndents := kept.drop 1 }

/-- Is the column to the right of the block at hand? -/
def opensBlock (l : Lexer) (column : Nat) : Bool := !l.inFlow && l.indent < (column : Int)

/-- The block at hand is a new one at the column. -/
def enter (l : Lexer) (column : Nat) : Lexer :=
  { l with indent := column, outerIndents := l.indent :: l.outerIndents }

/-- Opens a block at the column, if it is to the right of the block at hand. -/
def openBlock (l : Lexer) (column : Nat) (t : Token) : Lexer :=
  if l.opensBlock column then (l.enter column).add t else l

/-! ## Marks -/

/-- The mark of a flow collection's start. -/
def openFlow? (l : Lexer) (at_ : Position) (t : Token) : Option Lexer := do
  let l ← l.noteKey? at_
  return { l.add t with
    pending := none, outerPending := l.pending :: l.outerPending, keyAllowed := true }

/-- The mark of a flow collection's end. -/
def closeFlow? (l : Lexer) (t : Token) : Option Lexer := do
  let l ← l.forgetKey?
  let l := l.add t
  match l.outerPending with
  | k :: rest => return { l with pending := k, outerPending := rest, keyAllowed := false }
  | [] => return { l with keyAllowed := false }

/-- The mark between entries of a flow collection. -/
def flowEntry? (l : Lexer) : Option Lexer := do
  return { (← l.forgetKey?).add .flowEntry with keyAllowed := true }

/-- The mark of an entry of a block sequence. -/
def blockEntry? (l : Lexer) (at_ : Position) : Option Lexer := do
  if !l.inFlow && !l.keyAllowed then none
  let l ← (l.openBlock at_.column .blockSequenceStart).forgetKey?
  return { l.add .blockEntry with keyAllowed := true }

/-- The mark in front of a key. -/
def keyMark? (l : Lexer) (at_ : Position) : Option Lexer := do
  if !l.inFlow && !l.keyAllowed then none
  let l ← (l.openBlock at_.column .blockMappingStart).forgetKey?
  return { l.add .key with keyAllowed := !l.inFlow }

/-- The mark in front of a value: the possible key before it is one. -/
def valueMark? (l : Lexer) (at_ : Position) : Option Lexer :=
  match l.pending with
  | some k =>
    let opens := l.opensBlock k.position.column
    let marks := if opens then [Token.blockMappingStart, .key] else [.key]
    let l := if opens then l.enter k.position.column else l
    some { l.add .value with
      inserted := (k.place, marks) :: l.inserted, pending := none, keyAllowed := false }
  | none => do
    if !l.inFlow && !l.keyAllowed then none
    let l := l.openBlock at_.column .blockMappingStart
    return { l.add .value with keyAllowed := !l.inFlow }

/-- The mark of a document's start or end. -/
def documentMark? (l : Lexer) (t : Token) : Option Lexer := do
  return { (← (l.closeBlocks (-1)).forgetKey?).add t with keyAllowed := false }

/-- A token that may be part of a key. -/
def addKeyPart? (l : Lexer) (at_ : Position) (t : Token) : Option Lexer := do
  return { (← l.noteKey? at_).add t with keyAllowed := false }

/-! ## Reading -/

/-- What follows the blanks, comments and breaks before a token, and whether a key is allowed
there. -/
def skipGap (flow keyAllowed inComment : Bool) : List Marked → Bool × List Marked
  | [] => (keyAllowed, [])
  | (c, p) :: rest =>
    if isBreak c then skipGap flow (keyAllowed || !flow) false rest
    else if inComment || (c == byteOrderMark && p.column == 0) || c == ' '
        || (c == '\t' && (flow || !keyAllowed)) then
      skipGap flow keyAllowed inComment rest
    else if c == '#' then skipGap flow keyAllowed true rest
    else (keyAllowed, (c, p) :: rest)

/-- Is the character a mark that no plain scalar starts with? -/
def isMark (c : Char) : Bool :=
  ['-', '?', ':', ',', '[', ']', '\x7b', '\x7d', '#', '&', '*', '!', '|', '>', '\'', '\x22', '%',
    '@', '\x60'].contains c

/-- Can a plain scalar start with the character? -/
def startsPlain (flow : Bool) (c : Char) (rest : List Marked) : Bool :=
  !(isSpace c || isMark c) || (c == '-' && !(head? rest).any isBlank)
    || (!flow && (c == '?' || c == ':') && !atWordEnd rest)

/-- The lexer after the next token, which starts at the head, and what follows it. -/
def step? (l : Lexer) (c : Char) (p : Position) (rest : List Marked) :
    Option (Lexer × List Marked) :=
  let cs := (c, p) :: rest
  if p.column == 0 && c == '%' then do
    let l ← (l.closeBlocks (-1)).forgetKey?
    let (t, after) ← directive? rest
    return ({ l.add t with keyAllowed := false }, after)
  else if atDocumentMark cs then do
    let t := if c == '-' then Token.documentStart else .documentEnd
    return (← l.documentMark? t, cs.drop 3)
  else if c == '[' then do return (← l.openFlow? p .flowSequenceStart, rest)
  else if c == '\x7b' then do return (← l.openFlow? p .flowMappingStart, rest)
  else if c == ']' then do return (← l.closeFlow? .flowSequenceEnd, rest)
  else if c == '\x7d' then do return (← l.closeFlow? .flowMappingEnd, rest)
  else if c == ',' then do return (← l.flowEntry?, rest)
  else if c == '-' && atWordEnd rest then do return (← l.blockEntry? p, rest)
  else if c == '?' && (l.inFlow || atWordEnd rest) then do return (← l.keyMark? p, rest)
  else if c == ':' && (l.inFlow || atWordEnd rest) then do return (← l.valueMark? p, rest)
  else if c == '*' || c == '&' then do
    let (name, after) ← anchorName? rest
    return (← l.addKeyPart? p (if c == '*' then .aliasFor name else .anchor name), after)
  else if c == '!' then do
    let (t, after) ← tag? l.inFlow cs
    return (← l.addKeyPart? p t, after)
  else if (c == '|' || c == '>') && !l.inFlow then do
    let l ← l.forgetKey?
    let (text, after) ← blockScalar? (c == '|') l.indent rest
    let style := if c == '|' then ScalarStyle.literal else .folded
    return ({ l.add (.scalar text style) with keyAllowed := true }, after)
  else if c == '\'' || c == '\x22' then do
    let (text, after) ← quotedScalar? (c == '\x22') rest
    return (← l.addKeyPart? p (.scalar text .quoted), after)
  else if startsPlain l.inFlow c rest then do
    let (text, broken, after) ← plainScalar? l.inFlow (l.indent + 1) cs
    let l ← l.addKeyPart? p (.scalar text .plain)
    return ({ l with keyAllowed := broken }, after)
  else none

/-- The lexer at the end of the text. -/
def finish? (l : Lexer) : Option Lexer := (l.closeBlocks (-1)).forgetKey?

/-- The lexer after the whole text, of which at most `fuel` tokens are read. -/
def run? (l : Lexer) : (fuel : Nat) → List Marked → Option Lexer
  | 0, _ => none
  | fuel + 1, cs =>
    let (keyAllowed, cs) := skipGap l.inFlow l.keyAllowed false cs
    let l := { l with keyAllowed := keyAllowed }
    match cs with
    | [] => l.finish?
    | (c, p) :: rest => do
      let l ← l.dropStale? p
      let (l, after) ← (l.closeBlocks p.column).step? c p rest
      run? l fuel after

/-- The tokens in order, from the one of number `n` on, with what was inserted between them, which
is in order too. -/
def arranged (n : Nat) : (inserted : List (Nat × List Token)) → List Token → List Token
  | (place, marks) :: later, t :: rest =>
    if place = n then marks ++ t :: arranged (n + 1) later rest
    else t :: arranged (n + 1) ((place, marks) :: later) rest
  | _, ts => ts

end Lexer

/-- The tokens of a text. -/
def tokens? (s : String) : Option (List Token) :=
  let cs := s.toList
  if cs.all isAllowed then
    (Lexer.run? {} (cs.length + 2) (positioned cs)).map fun l =>
      Lexer.arranged 0 (l.inserted.mergeSort fun a b => a.1 ≤ b.1) l.tokens.reverse
  else none

end CellRecipe.Yaml
