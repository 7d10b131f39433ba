import Scaffold.Document.Tag
import Scaffold.Document.Token.Stream

/-!
# The nodes of a document

The tokens of a document make a graph of nodes: scalars, lists and mappings. A node may be named by an
anchor and then be part of several others through aliases, even of itself; so the parts of a node are
given by their places in the list of all nodes.

There may be only one document in a text. A text without document is one that says nothing.
-/

namespace Scaffold.Document

/-- What a node holds. -/
inductive Content where
  /-- A scalar. -/
  | scalar (text : String)
  /-- The places of the items of a list. -/
  | sequence (items : List Nat)
  /-- The places of the keys and values of a mapping. -/
  | mapping (entries : List (Nat × Nat))
deriving Repr

/-- A node. -/
structure Node where
  /-- Its kind. -/
  tag : Tag
  /-- What it holds. -/
  content : Content
deriving Repr

/-- The nodes of a document. -/
structure Graph where
  /-- All nodes. -/
  nodes : Array Node
  /-- The place of the node that is the whole document. -/
  root : Nat
deriving Repr

/-- How far the nodes of a document have been built. -/
structure Builder where
  /-- The tokens to come. -/
  tokens : List Token
  /-- The abbreviations for the beginnings of tags. -/
  handles : List (String × String)
  /-- The places of the nodes that are named. -/
  anchors : List (String × Nat)
  /-- The nodes. -/
  nodes : Array Node

/-- Building nodes, which may fail. -/
abbrev Build (α : Type) := StateT Builder (Except ScanFault) α

namespace Build

/-- The text is no document. -/
def fail {α : Type} : Build α := throw .malformed

/-- The next token, which stays unread. -/
def peek : Build Token := do
  match (← get).tokens with
  | .fault f :: _ => throw f
  | t :: _ => return t
  | [] => fail

/-- Moves past a token. -/
def advance : Build Unit :=
  modify fun b ↦ { b with tokens := b.tokens.tail }

/-- The next token is one of some. -/
def isNext (ts : List Token) : Build Bool := do
  return ts.contains (← peek)

/-- Adds a node. -/
def add (n : Node) : Build Nat := do
  let b ← get
  set { b with nodes := b.nodes.push n }
  return b.nodes.size

/-- Adds the node that stands where nothing is written. -/
def addEmpty : Build Nat := add ⟨.null, .scalar ""⟩

/-- Names a node. -/
def setAnchor (name : Option String) (place : Nat) : Build Unit := do
  match name with
  | none => return ()
  | some name =>
    if ((← get).anchors.lookup name).isSome then fail
    modify fun b ↦ { b with anchors := (name, place) :: b.anchors }

/-- Adds a list or mapping, named before its parts are built by the given means. -/
def addCollection (tag : Tag) (name : Option String) (parts : Build Content) : Build Nat := do
  let place ← add ⟨tag, .sequence []⟩
  setAnchor name place
  let content ← parts
  modify fun b ↦ { b with nodes := b.nodes.setIfInBounds place ⟨tag, content⟩ }
  return place

/-- The name in front of a node, if there is one. -/
def anchor? : Build (Option String) := do
  match ← peek with
  | .anchor name =>
    advance
    return some name
  | _ => return none

/-- The tag in front of a node, if there is one. -/
def tag? : Build (Option String) := do
  match ← peek with
  | .tag none suffix =>
    advance
    return some suffix
  | .tag (some handle) suffix =>
    advance
    match (← get).handles.lookup handle with
    | some start => return some (start ++ suffix)
    | none => fail
  | _ => return none

/-- The name and the tag in front of a node, in either order. -/
def properties : Build (Option String × Option String) := do
  match ← peek with
  | .anchor _ =>
    let name ← anchor?
    return (name, ← tag?)
  | _ =>
    let tag ← tag?
    if tag.isSome then return (← anchor?, tag)
    else return (none, none)

/-- The kind of a scalar with the given tag. The tag of one exclamation mark stands for none. -/
def scalarTag (tag : Option String) (text : String) (plain : Bool) : Tag :=
  match tag with
  | none => if plain then .ofPlain text else .text
  | some tag => if tag = "!" then .ofPlain text else .ofText tag

/-- The kind of a list or mapping with the given tag. -/
def collectionTag (tag : Option String) (usual : Tag) : Tag :=
  match tag with
  | none => usual
  | some tag => if tag = "!" then usual else .ofText tag

/-- Where a node stands. -/
inductive Place where
  /-- In brackets. -/
  | flow
  /-- By indentation. -/
  | block
  /-- By indentation, as a key or value. There, the items of a list need not be indented. -/
  | entry
deriving DecidableEq, Repr

mutual

/-- A node. -/
def node (fuel : Nat) (place : Place) : Build Nat :=
  match fuel with
  | 0 => fail
  | fuel + 1 => do
    match ← peek with
    | .alias name =>
      advance
      match (← get).anchors.lookup name with
      | some place => return place
      | none => fail
    | _ =>
      let (name, tag) ← properties
      match ← peek with
      | .scalar text plain =>
        advance
        let node ← add ⟨scalarTag tag text plain, .scalar text⟩
        setAnchor name node
        return node
      | .flowSequenceStart =>
        advance
        addCollection (collectionTag tag .list) name
          (Content.sequence <$> flowItems fuel true [])
      | .flowMappingStart =>
        advance
        addCollection (collectionTag tag .mapping) name
          (Content.mapping <$> flowEntries fuel true [])
      | t =>
        if t = .blockSequenceStart && place != .flow then
          advance
          addCollection (collectionTag tag .list) name
            (Content.sequence <$> blockItems fuel [])
        else if t = .blockMappingStart && place != .flow then
          advance
          addCollection (collectionTag tag .mapping) name
            (Content.mapping <$> blockEntries fuel [])
        else if t = .blockEntry && place = .entry then
          addCollection (collectionTag tag .list) name
            (Content.sequence <$> bareItems fuel [])
        else if name.isSome || tag.isSome then
          let node ← add ⟨scalarTag tag "" true, .scalar ""⟩
          setAnchor name node
          return node
        else fail

/-- A node, or nothing before one of the tokens that may follow it. -/
def nodeBefore (fuel : Nat) (place : Place) (ends : List Token) : Build Nat :=
  match fuel with
  | 0 => fail
  | fuel + 1 => do
    if ← isNext ends then addEmpty else node fuel place

/-- The items of an indented list. -/
def blockItems (fuel : Nat) (items : List Nat) : Build (List Nat) :=
  match fuel with
  | 0 => fail
  | fuel + 1 => do
    match ← peek with
    | .blockEntry =>
      advance
      let item ← nodeBefore fuel .block [.blockEntry, .blockEnd]
      blockItems fuel (items ++ [item])
    | .blockEnd =>
      advance
      return items
    | _ => fail

/-- The items of a list that is not indented. -/
def bareItems (fuel : Nat) (items : List Nat) : Build (List Nat) :=
  match fuel with
  | 0 => fail
  | fuel + 1 => do
    match ← peek with
    | .blockEntry =>
      advance
      let item ← nodeBefore fuel .block [.blockEntry, .key, .value, .blockEnd]
      bareItems fuel (items ++ [item])
    | _ => return items

/-- The value after a key, or nothing. -/
def valueBefore (fuel : Nat) (place : Place) (ends : List Token) : Build Nat :=
  match fuel with
  | 0 => fail
  | fuel + 1 => do
    match ← peek with
    | .value =>
      advance
      nodeBefore fuel place ends
    | _ => addEmpty

/-- The entries of an indented mapping. -/
def blockEntries (fuel : Nat) (entries : List (Nat × Nat)) : Build (List (Nat × Nat)) :=
  match fuel with
  | 0 => fail
  | fuel + 1 => do
    match ← peek with
    | .key =>
      advance
      let key ← nodeBefore fuel .entry [.key, .value, .blockEnd]
      let value ← valueBefore fuel .entry [.key, .value, .blockEnd]
      blockEntries fuel (entries ++ [(key, value)])
    | .blockEnd =>
      advance
      return entries
    | _ => fail

/-- The items of a list in brackets. A pair among them is a mapping with one entry. -/
def flowItems (fuel : Nat) (first : Bool) (items : List Nat) : Build (List Nat) :=
  match fuel with
  | 0 => fail
  | fuel + 1 => do
    if ← isNext [.flowSequenceEnd] then
      advance
      return items
    if !first then
      if ← isNext [.flowEntry] then advance else fail
    match ← peek with
    | .flowSequenceEnd =>
      advance
      return items
    | .key =>
      advance
      let item ← addCollection .mapping none do
        let key ← nodeBefore fuel .flow [.value, .flowEntry, .flowSequenceEnd]
        let value ← valueBefore fuel .flow [.flowEntry, .flowSequenceEnd]
        return .mapping [(key, value)]
      flowItems fuel false (items ++ [item])
    | _ =>
      let item ← node fuel .flow
      flowItems fuel false (items ++ [item])

/-- The entries of a mapping in brackets. -/
def flowEntries (fuel : Nat) (first : Bool) (entries : List (Nat × Nat)) :
    Build (List (Nat × Nat)) :=
  match fuel with
  | 0 => fail
  | fuel + 1 => do
    if ← isNext [.flowMappingEnd] then
      advance
      return entries
    if !first then
      if ← isNext [.flowEntry] then advance else fail
    match ← peek with
    | .flowMappingEnd =>
      advance
      return entries
    | .key =>
      advance
      let key ← nodeBefore fuel .flow [.value, .flowEntry, .flowMappingEnd]
      let value ← valueBefore fuel .flow [.flowEntry, .flowMappingEnd]
      flowEntries fuel false (entries ++ [(key, value)])
    | _ =>
      let key ← node fuel .flow
      let value ← addEmpty
      flowEntries fuel false (entries ++ [(key, value)])

end

/-- The abbreviations that need no directive. -/
def usualHandles : List (String × String) := [("!", "!"), ("!!", Tag.usual)]

/-- The directives before a document. Only the first version of the format is known, and nothing may
be said twice. -/
def directives : (fuel : Nat) → (versions : Nat) → (handles : List (String × String)) → Build Unit
  | 0, _, _ => fail
  | fuel + 1, versions, handles => do
    match ← peek with
    | .version major =>
      advance
      if versions ≠ 0 || major ≠ 1 then fail
      directives fuel (versions + 1) handles
    | .tagHandle handle start =>
      advance
      if (handles.lookup handle).isSome then fail
      directives fuel versions (handles ++ [(handle, start)])
    | .directive =>
      advance
      directives fuel versions handles
    | _ => modify fun b ↦ { b with handles := handles ++ usualHandles }

/-- A directive. -/
def isDirective : Token → Bool
  | .version _ => true
  | .tagHandle _ _ => true
  | .directive => true
  | _ => false

/-- The text holds nothing more. -/
def finish : (fuel : Nat) → Build Unit
  | 0 => fail
  | fuel + 1 => do
    match ← peek with
    | .documentEnd =>
      advance
      finish fuel
    | .streamEnd => return ()
    | _ => fail

/-- The document of a text. -/
def document (fuel : Nat) : Build Nat := do
  let t ← peek
  if t = .streamEnd then addEmpty
  else if t = .documentStart || isDirective t then
    directives fuel 0 []
    if !(← isNext [.documentStart]) then fail
    advance
    let t ← peek
    let root ←
      if isDirective t || t = .documentStart || t = .documentEnd || t = .streamEnd then addEmpty
      else node fuel .block
    finish fuel
    return root
  else
    let root ← node fuel .block
    finish fuel
    return root

end Build

namespace Graph

/-- The nodes of the document that a text is. -/
def ofText (text : String) : Except ScanFault Graph := do
  let tokens := Token.ofText text
  let start : Builder := ⟨tokens.toList, Build.usualHandles, [], #[]⟩
  let (root, b) ← (Build.document (4 * tokens.size + 8)).run start
  return ⟨b.nodes, root⟩

end Graph

end Scaffold.Document
