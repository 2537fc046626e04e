import CellRecipe.Table
import CellRecipe.Yaml.Node
import CellRecipe.Yaml.Token.Lexer

/-!
# From tokens to nodes

The content that the tokens of a text denote. A text holds at most one document; one without any
token holds none, and one with a second document, an unknown anchor or a handle that no directive
declares is malformed.

The number of an anchor is the count of different names before it. A name that is used again may
therefore share its number with the next new name, and then both stand for the node that starts
last.

## Main definitions

* `Content.ofText?`: the content of a text, if the text is well-formed, and if there is a document.
-/

namespace CellRecipe.Yaml

/-- What is left to be composed and what has been seen. -/
structure Composer where
  tokens : List Token
  /-- The number of the last anchor of each name. -/
  numbers : Table Nat := .empty
  /-- The numbers of all anchors, the last one first. -/
  opened : List Nat := []
  /-- The nodes that are complete, by how many anchors were opened before. -/
  complete : List (Nat × Node) := []
  /-- What the declared handles stand for. -/
  handles : List (String × String) := []

/-- A step of composition, which fails where the tokens are malformed. -/
abbrev Compose := StateT Composer Option

namespace Compose

/-- The token at hand. -/
def token? : Compose (Option Token) := do return (← get).tokens.head?

/-- Passes the token at hand. -/
def skip : Compose Unit := modify fun c => { c with tokens := c.tokens.drop 1 }

/-- Passes the token at hand, which has to be the given one. -/
def expect (t : Token) : Compose Unit := do
  if (← token?) = some t then skip else failure

/-- Is the token at hand one of the given ones, or is there none? -/
def atAny (ts : List Token) : Compose Bool := do
  match ← token? with
  | some t => return ts.contains t
  | none => return true

/-! ## Anchors and tags -/

/-- An alias for the last anchor of a name. -/
def aliasNode (name : String) : Compose Node := do
  match (← get).numbers.get? name with
  | some n => return .aliasFor n
  | none => failure

/-- Notes an anchor before its node is read, and tells how many were opened before. -/
def openAnchor : Option String → Compose (Option Nat)
  | none => return none
  | some name => do
    let c ← get
    let n := c.numbers.size
    set { c with numbers := c.numbers.insert name n, opened := n :: c.opened }
    return some c.opened.length

/-- Notes the node of an anchor when it is complete. -/
def closeAnchor (place : Option Nat) (node : Node) : Compose Node := do
  match place with
  | none => return node
  | some n =>
    modify fun c => { c with complete := (n, node) :: c.complete }
    return node

/-- What the numbers of anchors stand for, the anchors opened last first. -/
def anchors (opened : List Nat) (complete : List (Nat × Node)) : Anchors :=
  match opened with
  | [] => []
  | number :: before =>
    ((complete.lookup before.length).map fun n => (number, n)).toList ++ anchors before complete

/-- The tag of a handle and an ending. -/
def tagOf (handle ending : String) : Compose String := do
  if handle.isEmpty then return ending
  match (← get).handles.lookup handle with
  | some start => return start ++ ending
  | none => failure

/-- The anchor at hand, if there is one. -/
def anchor? : Compose (Option String) := do
  match ← token? with
  | some (.anchor name) => do skip; return some name
  | _ => return none

/-- The tag at hand, if there is one. -/
def tag? : Compose (Option String) := do
  match ← token? with
  | some (.tag handle ending) => do skip; return some (← tagOf handle ending)
  | _ => return none

/-- The anchor and the tag of a node, in either order. -/
def properties : Compose (Option String × Option String) := do
  match ← anchor? with
  | some name => return (some name, ← tag?)
  | none => do
    let tag ← tag?
    return (← anchor?, tag)

/-! ## Nodes -/

mutual

/-- A node; `inBlock` says whether block collections may start here, `afterKey` whether a sequence
may start at the column of its key. -/
def node (inBlock afterKey : Bool) : (fuel : Nat) → Compose Node
  | 0 => failure
  | fuel + 1 => do
    match ← token? with
    | some (.aliasFor name) => do skip; aliasNode name
    | _ => do
      let (name, tag) ← properties
      let anchor ← openAnchor name
      match ← token? with
      | some (.scalar text style) => do
        skip
        closeAnchor anchor (.scalar ⟨text, style, tag⟩)
      | some .flowSequenceStart => do
        skip
        closeAnchor anchor (.sequence (← flowItems true fuel))
      | some .flowMappingStart => do
        skip
        closeAnchor anchor (.mapping (← flowEntries true fuel))
      | some .blockEntry =>
        if afterKey then do closeAnchor anchor (.sequence (← openItems fuel))
        else missing name tag anchor
      | some .blockSequenceStart =>
        if inBlock then do
          skip
          closeAnchor anchor (.sequence (← blockItems fuel))
        else missing name tag anchor
      | some .blockMappingStart =>
        if inBlock then do
          skip
          closeAnchor anchor (.mapping (← blockEntries fuel))
        else missing name tag anchor
      | _ => missing name tag anchor

/-- A node that has nothing but an anchor or a tag. -/
def missing (name tag : Option String) (anchor : Option Nat) : Compose Node :=
  if name.isSome || tag.isSome then closeAnchor anchor (.empty tag) else failure

/-- A node, or an empty one before one of the given tokens. -/
def nodeUnless (stops : List Token) (inBlock afterKey : Bool) : (fuel : Nat) → Compose Node
  | 0 => failure
  | fuel + 1 => do
    if ← atAny stops then return .empty none else node inBlock afterKey fuel

/-- The items of a block sequence up to its end. -/
def blockItems : (fuel : Nat) → Compose (List Node)
  | 0 => failure
  | fuel + 1 => do
    match ← token? with
    | some .blockEntry => do
      skip
      let item ← nodeUnless [.blockEntry, .blockEnd] true false fuel
      return item :: (← blockItems fuel)
    | some .blockEnd => do skip; return []
    | _ => failure

/-- The items of a sequence at the column of its key. -/
def openItems : (fuel : Nat) → Compose (List Node)
  | 0 => failure
  | fuel + 1 => do
    match ← token? with
    | some .blockEntry => do
      skip
      let item ← nodeUnless [.blockEntry, .key, .value, .blockEnd] true false fuel
      return item :: (← openItems fuel)
    | _ => return []

/-- The entries of a block mapping up to its end. -/
def blockEntries : (fuel : Nat) → Compose (List (Node × Node))
  | 0 => failure
  | fuel + 1 => do
    match ← token? with
    | some .key => do
      skip
      let key ← nodeUnless [.key, .value, .blockEnd] true true fuel
      let value ← blockValue fuel
      return (key, value) :: (← blockEntries fuel)
    | some .blockEnd => do skip; return []
    | _ => failure

/-- The value of an entry of a block mapping. -/
def blockValue : (fuel : Nat) → Compose Node
  | 0 => failure
  | fuel + 1 => do
    match ← token? with
    | some .value => do
      skip
      nodeUnless [.key, .value, .blockEnd] true true fuel
    | _ => return .empty none

/-- The items of a flow sequence up to its end. -/
def flowItems (first : Bool) : (fuel : Nat) → Compose (List Node)
  | 0 => failure
  | fuel + 1 => do
    if (← token?) = some .flowSequenceEnd then do skip; return []
    else do
      unless first do expect .flowEntry
      match ← token? with
      | some .flowSequenceEnd => do skip; return []
      | some .key => do
        skip
        let entry ← singleEntry fuel
        return .mapping [entry] :: (← flowItems false fuel)
      | _ => do
        let item ← node false false fuel
        return item :: (← flowItems false fuel)

/-- The entry of a mapping that is an item of a flow sequence. -/
def singleEntry : (fuel : Nat) → Compose (Node × Node)
  | 0 => failure
  | fuel + 1 => do
    let stops := [Token.value, .flowEntry, .flowSequenceEnd]
    let bare ← atAny stops
    if bare then skip
    let key ← if bare then pure (Node.empty none) else node false false fuel
    match ← token? with
    | some .value => do
      skip
      return (key, ← nodeUnless [.flowEntry, .flowSequenceEnd] false false fuel)
    | _ => return (key, .empty none)

/-- The entries of a flow mapping up to its end. -/
def flowEntries (first : Bool) : (fuel : Nat) → Compose (List (Node × Node))
  | 0 => failure
  | fuel + 1 => do
    if (← token?) = some .flowMappingEnd then do skip; return []
    else do
      unless first do expect .flowEntry
      match ← token? with
      | some .flowMappingEnd => do skip; return []
      | some .key => do
        skip
        let key ← nodeUnless [.value, .flowEntry, .flowMappingEnd] false false fuel
        let value ← flowValue fuel
        return (key, value) :: (← flowEntries false fuel)
      | _ => do
        let key ← node false false fuel
        return (key, .empty none) :: (← flowEntries false fuel)

/-- The value of an entry of a flow mapping. -/
def flowValue : (fuel : Nat) → Compose Node
  | 0 => failure
  | fuel + 1 => do
    match ← token? with
    | some .value => do
      skip
      nodeUnless [.flowEntry, .flowMappingEnd] false false fuel
    | _ => return .empty none

end

/-! ## Documents -/

/-- The handles that need no directive. -/
def standardHandles : List (String × String) := [("!", "!"), ("!!", "tag:yaml.org,2002:")]

/-- The directives at hand, and whether there were any. Each is given at most once. -/
def directives (versioned : Bool) (declared : List String) : (fuel : Nat) → Compose Bool
  | 0 => failure
  | fuel + 1 => do
    match ← token? with
    | some (.versionDirective major minor) =>
      if versioned || major ≠ 1 || (minor ≠ 1 && minor ≠ 2) then failure
      else do
        skip
        discard (directives true declared fuel)
        return true
    | some (.tagDirective handle start) =>
      if declared.contains handle then failure
      else do
        skip
        modify fun c => { c with handles := (handle, start) :: c.handles }
        discard (directives versioned (handle :: declared) fuel)
        return true
    | _ => return false

/-- Passes the marks of a document's end. -/
def documentEnds : (fuel : Nat) → Compose Unit
  | 0 => failure
  | fuel + 1 => do
    if (← token?) = some .documentEnd then do skip; documentEnds fuel

/-- The only document, if there is one. -/
def document (fuel : Nat) : Compose (Option Content) := do
  if (← token?).isNone then return none
  let directed ← directives false [] fuel
  modify fun c => { c with handles := c.handles ++ standardHandles }
  let marked := (← token?) = some .documentStart
  if directed && !marked then failure
  if marked then skip
  let root ←
    if marked then
      match ← token? with
      | none => pure (Node.empty none)
      | some .documentStart => pure (Node.empty none)
      | some .documentEnd => pure (Node.empty none)
      | _ => node true false fuel
    else node true false fuel
  documentEnds fuel
  if (← token?).isSome then failure
  let c ← get
  return some ⟨root, anchors c.opened c.complete⟩

end Compose

/-- The content of a text. The outer option says whether the text is well-formed, the inner one
whether there is a document. -/
def Content.ofText? (s : String) : Option (Option Content) := do
  let tokens ← tokens? s
  let fuel := 4 * tokens.length + 8
  return (← (Compose.document fuel).run { tokens := tokens }).1

end CellRecipe.Yaml
