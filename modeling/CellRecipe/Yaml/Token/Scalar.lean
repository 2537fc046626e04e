import CellRecipe.Text.Numeral
import CellRecipe.Yaml.Token

/-!
# Scalars of YAML

Reading the words of a text: plain ones, quoted ones and blocks. Inside a plain or quoted scalar a
run of blanks that holds a line break folds to a single space, or to the breaks after the first one
if there are more.

Each function gets the characters from the scalar on and returns its text and what follows it, or
nothing if the scalar is malformed.

## Main definitions

* `Gap.folded`: what becomes of a run of blanks and breaks.
* `plainScalar?`, `quotedScalar?`, `blockScalar?`: the three kinds of scalar.
-/

namespace CellRecipe.Yaml

/-! ## Runs of blanks -/

/-- A run of blanks and breaks: the blanks of a run without breaks, or the first break and the later
ones, all last one first. -/
structure Gap where
  blanks : List Char := []
  broken : Bool := false
  first : List Char := []
  later : List Char := []

namespace Gap

/-- The run with one more blank, which counts only before the first break. -/
def addBlank (g : Gap) (c : Char) : Gap :=
  if g.broken then g else { g with blanks := c :: g.blanks }

/-- The run with one more break. -/
def addBreak (g : Gap) (c : Char) : Gap :=
  if g.broken then { g with later := c :: g.later } else { g with broken := true, first := [c] }

/-- What becomes of the run, last character first. -/
def folded (g : Gap) : List Char :=
  if !g.broken then g.blanks
  else if g.first = ['\n'] then if g.later.isEmpty then [' '] else g.later
  else g.later ++ g.first

end Gap

/-! ## Plain scalars -/

/-- The indicators that end a word inside flow collections. -/
def isFlowMark (c : Char) : Bool := [',', '[', ']', '\x7b', '\x7d'].contains c

/-- Is the colon at the head of a word malformed inside a flow collection? -/
def isStrayColon (c : Char) (rest : List Marked) : Bool :=
  c == ':' && (head? rest).any fun d => isFlowMark d || d == '?'

/-- Does a plain scalar end at the character? -/
def endsPlain (flow : Bool) (c : Char) (rest : List Marked) : Bool :=
  (c == ':' && atWordEnd rest) || (flow && isFlowMark c)

/-- A plain scalar of which the characters in `text` have been read, last one first. Returned are
the characters, whether a line break was passed after them, and what follows. -/
def plainFrom (flow : Bool) (indent : Int) (text : List Char) (inWord : Bool) (gap : Gap) :
    List Marked → Option (List Char × Bool × List Marked)
  | [] => some (text, gap.broken, [])
  | ('\r', _) :: ('\n', _) :: rest => plainFrom flow indent text false (gap.addBreak '\n') rest
  | (c, p) :: rest =>
    if isBlank c then
      if gap.broken && (p.column : Int) < indent && c == '\t' then none
      else plainFrom flow indent text false (gap.addBlank c) rest
    else if isBreak c then plainFrom flow indent text false (gap.addBreak (keptBreak c)) rest
    else if !inWord && !text.isEmpty
        && ((!flow && (p.column : Int) < indent) || atDocumentMark ((c, p) :: rest)
          || c == '#') then
      some (text, gap.broken, (c, p) :: rest)
    else if flow && isStrayColon c rest then none
    else if endsPlain flow c rest then some (text, gap.broken, (c, p) :: rest)
    else plainFrom flow indent (c :: (gap.folded ++ text)) true {} rest

/-- A plain scalar in a block that is indented by less than `indent`. -/
def plainScalar? (flow : Bool) (indent : Int) (cs : List Marked) :
    Option (String × Bool × List Marked) :=
  (plainFrom flow indent [] true {} cs).map fun (text, broken, rest) =>
    (String.ofList text.reverse, broken, rest)

/-! ## Quoted scalars -/

/-- The character of an escape that stands for one character. -/
def escaped? : Char → Option Char
  | '0' => some '\x00'
  | 'a' => some '\x07'
  | 'b' => some '\x08'
  | 't' => some '\t'
  | '\t' => some '\t'
  | 'n' => some '\n'
  | 'v' => some '\x0b'
  | 'f' => some '\x0c'
  | 'r' => some '\r'
  | 'e' => some '\x1b'
  | ' ' => some ' '
  | '\x22' => some '\x22'
  | '/' => some '/'
  | '\\' => some '\\'
  | 'N' => some '\u0085'
  | '_' => some '\u00a0'
  | 'L' => some '\u2028'
  | 'P' => some '\u2029'
  | _ => none

/-- How many hexadecimal digits an escape takes. -/
def escapeWidth? : Char → Option Nat
  | 'x' => some 2
  | 'u' => some 4
  | 'U' => some 8
  | _ => none

/-- The number that hexadecimal digits denote. -/
def hexNumber? (cs : List Char) : Option Nat :=
  cs.foldl (fun n c => do return 16 * (← n) + (← Text.hexDigitValue? c)) (some 0)

/-- The character that `width` hexadecimal digits at the head denote. -/
def hexChar? (width : Nat) (cs : List Marked) : Option Char := do
  let digits := peek width cs
  if digits.length ≠ width then none
  let n ← hexNumber? digits
  if n.isValidChar then some (Char.ofNat n) else none

/-- The gap after an escaped line break. -/
def escapedBreak : Gap := { broken := true }

/-- A quoted scalar of which the characters in `text` have been read, last one first. -/
def quotedFrom (double : Bool) (text : List Char) (gap : Gap) :
    (cs : List Marked) → Option (List Char × List Marked)
  | [] => none
  | (c, p) :: rest =>
    if atDocumentMark ((c, p) :: rest) then none
    else if isBlank c then quotedFrom double text (gap.addBlank c) rest
    else if isBreak c then
      if c == '\r' && head? rest == some '\n' then
        quotedFrom double text (gap.addBreak '\n') (rest.drop 1)
      else quotedFrom double text (gap.addBreak (keptBreak c)) rest
    else
      let text := gap.folded ++ text
      if c == (if double then '\x22' else '\'') then
        if !double && head? rest == some '\'' then quotedFrom double ('\'' :: text) {} (rest.drop 1)
        else some (text, rest)
      else if double && c == '\\' then
        match rest with
        | [] => none
        | (e, _) :: after =>
          if isBreak e then
            if e == '\r' && head? after == some '\n' then
              quotedFrom double text escapedBreak (after.drop 1)
            else quotedFrom double text escapedBreak after
          else
            match escaped? e, escapeWidth? e with
            | some d, _ => quotedFrom double (d :: text) {} after
            | none, some width =>
              match hexChar? width after with
              | some d => quotedFrom double (d :: text) {} (after.drop width)
              | none => none
            | none, none => none
      else quotedFrom double (c :: text) {} rest
  termination_by cs => cs.length
  decreasing_by all_goals simp; try omega

/-- A scalar between quotes, from after the first one. -/
def quotedScalar? (double : Bool) (cs : List Marked) : Option (String × List Marked) :=
  (quotedFrom double [] {} cs).map fun (text, rest) => (String.ofList text.reverse, rest)

/-! ## Blocks -/

/-- What becomes of the breaks at the end of a block. -/
inductive Chomping where
  | strip
  | clip
  | keep
  deriving DecidableEq

/-- The first line of a block scalar: its chomping and its indentation, if given. -/
structure BlockHeader where
  chomping : Chomping := .clip
  indent : Option Nat := none

/-- The chomping that a character stands for. -/
def chomping? : Char → Option Chomping
  | '+' => some .keep
  | '-' => some .strip
  | _ => none

/-- The indentation that a character stands for. -/
def indentDigit? (c : Char) : Option Nat :=
  if '1' ≤ c && c ≤ '9' then some (c.toNat - 48) else none

/-- The header of a block, from after its indicator to the end of its marks. -/
def blockMarks : List Marked → BlockHeader × List Marked
  | (a, p) :: (b, q) :: rest =>
    match chomping? a, indentDigit? b, indentDigit? a, chomping? b with
    | some k, some n, _, _ => (⟨k, some n⟩, rest)
    | some k, none, _, _ => (⟨k, none⟩, (b, q) :: rest)
    | none, _, some n, some k => (⟨k, some n⟩, rest)
    | none, _, some n, none => (⟨.clip, some n⟩, (b, q) :: rest)
    | none, _, none, _ => ({}, (a, p) :: (b, q) :: rest)
  | [(a, p)] =>
    match chomping? a, indentDigit? a with
    | some k, _ => (⟨k, none⟩, [])
    | none, some n => (⟨.clip, some n⟩, [])
    | none, none => ({}, [(a, p)])
  | [] => ({}, [])

/-- The blank lines at the head: the breaks that end them, last one first, the greatest column that
was reached, and what follows. A tab in place of indentation is malformed. -/
def blankLines (indent : Option Nat) (breaks : List Char) (reached : Nat) :
    List Marked → Option (List Char × Nat × List Marked)
  | [] => some (breaks, reached, [])
  | ('\r', _) :: ('\n', _) :: rest => blankLines indent ('\n' :: breaks) reached rest
  | (c, p) :: rest =>
    let inIndent := indent.all fun n => p.column < n
    if c == ' ' && inIndent then blankLines indent breaks (max reached (p.column + 1)) rest
    else if c == '\t' && inIndent then none
    else if isBreak c then blankLines indent (keptBreak c :: breaks) reached rest
    else some (breaks, reached, (c, p) :: rest)

/-- A block being read: its text, the break that ended its last line, and whether that line started
with a blank. -/
structure BlockState where
  text : List Char := []
  lastBreak : List Char := []
  blankStart : Bool := false

/-- The text with the breaks between two lines: in a folded block a single break between lines that
do not start with blanks becomes a space, or vanishes before more breaks. -/
def joinBreaks (isLiteral : Bool) (s : BlockState) (blankStart : Bool) (breaks : List Char) :
    List Char :=
  if !isLiteral && s.lastBreak == ['\n'] && !s.blankStart && !blankStart then
    if breaks.isEmpty then ' ' :: s.text else breaks ++ s.text
  else breaks ++ (s.lastBreak ++ s.text)

/-- The lines of a block that are indented by `indent`, at most `fuel` of them, where `breaks` are
the breaks of the blank lines before. -/
def blockLinesFrom (isLiteral : Bool) (indent : Nat) (s : BlockState) (breaks : List Char) :
    (fuel : Nat) → List Marked → Option (BlockState × List Char × List Marked)
  | 0, cs => some (s, breaks, cs)
  | _ + 1, [] => some (s, breaks, [])
  | fuel + 1, (c, p) :: rest =>
    if p.column ≠ indent then some (s, breaks, (c, p) :: rest)
    else do
      let line := ((c, p) :: rest).takeWhile fun x => !isBreak x.1
      let after := dropLine ((c, p) :: rest)
      let joined := joinBreaks isLiteral s (isBlank c) breaks
      let text := (line.map (·.1)).reverse ++ joined
      match takeBreak? after with
      | none => some (⟨text, [], isBlank c⟩, [], after)
      | some (b, after) =>
        let (breaks, _, after) ← blankLines (some indent) [] 0 after
        blockLinesFrom isLiteral indent ⟨text, [b], isBlank c⟩ breaks fuel after

/-- A block scalar, from after its indicator, inside a block that is indented by `outer`. -/
def blockScalar? (isLiteral : Bool) (outer : Int) (cs : List Marked) :
    Option (String × List Marked) := do
  let (header, rest) := blockMarks cs
  let rest := dropComment (dropBlanks rest)
  if !atLineEnd rest then none
  let rest := match takeBreak? rest with
    | some (_, after) => after
    | none => rest
  let given := header.indent.map fun n => if 0 ≤ outer then outer.toNat + n else n
  let (breaks, reached, rest) ← blankLines given [] 0 rest
  let indent := given.getD (max reached (max (outer + 1).toNat 1))
  let (s, breaks, rest) ← blockLinesFrom isLiteral indent {} breaks (cs.length + 1) rest
  let text := match header.chomping with
    | .strip => s.text
    | .clip => s.lastBreak ++ s.text
    | .keep => breaks ++ (s.lastBreak ++ s.text)
  return (String.ofList text.reverse, rest)

end CellRecipe.Yaml
