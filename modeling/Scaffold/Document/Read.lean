import Scaffold.Document.Merge
import Scaffold.Document.Scalar

/-!
# Reading documents

The value of a document is found from its root. Lists and mappings are opened in the order in which
they are met, level by level, and scalars are read when they are met; so of two faults the one nearer to
the root is told. A key must have no parts.

A document may contain itself. On its first levels, of which the number is given, a list or mapping
inside itself is unfolded; below them it is only marked as such, so that the value is finite.
-/

namespace Scaffold.Document

/-- How far a document has been read. -/
structure Reader where
  /-- The nodes, with the merging done in the mappings that have been opened. -/
  nodes : Array Node
  /-- The values of the scalars that have been met, and nothing for the collections. -/
  met : List (Nat × Option Value)
  /-- The lists and mappings that are still to be opened. -/
  waiting : List Nat

/-- Reading a document, which may fail. -/
abbrev Read (α : Type) := StateT Reader (Except ReadFault) α

namespace Read

/-- The document is malformed. -/
def fail {α : Type} : Read α := throw .malformed

/-- The node at a place. -/
def node (place : Nat) : Read Node := do
  match (← get).nodes[place]? with
  | some n => return n
  | none => fail

/-- A node of the kind is opened to be read. -/
def isCollection : Tag → Bool
  | .list => true
  | .mapping => true
  | .pairs => true
  | .set => true
  | _ => false

/-- The text of a node: of a scalar, or of the value that stands for a mapping. -/
def scalarText (nodes : Array Node) : (fuel : Nat) → (place : Nat) → Option String
  | 0, _ => none
  | fuel + 1, place =>
    match nodes[place]? with
    | some ⟨_, .scalar text⟩ => some text
    | some ⟨_, .mapping entries⟩ =>
      match entries.find? fun (key, _) ↦ Merge.hasTag nodes .default key with
      | some (_, value) => scalarText nodes fuel value
      | none => none
    | _ => none

/-- The value of a node that is read as a scalar. -/
def scalarValue (place : Nat) (n : Node) : Read Value := do
  let nodes := (← get).nodes
  match scalarText nodes (nodes.size + 1) place, n.content, n.tag with
  | none, _, _ => fail
  | some _, .mapping _, .moment => throw .mappingMoment
  | some text, _, tag => Value.ofScalar tag text

/-- Meets a node. -/
def meet (place : Nat) : Read Unit := do
  if ((← get).met.lookup place).isNone then
    let n ← node place
    if isCollection n.tag then
      modify fun r ↦
        { r with met := (place, none) :: r.met, waiting := r.waiting ++ [place] }
    else
      let v ← scalarValue place n
      modify fun r ↦ { r with met := (place, some v) :: r.met }

/-- Meets the keys and values of a mapping. -/
def meetEntries : List (Nat × Nat) → Read Unit
  | [] => return ()
  | (key, value) :: rest => do
    meet key
    if isCollection (← node key).tag then fail
    meet value
    meetEntries rest

/-- Opens a mapping. -/
def openMapping (place : Nat) : Read Unit := do
  match Merge.inPlace (← get).nodes place with
  | none => fail
  | some nodes =>
    modify fun r ↦ { r with nodes := nodes }
    meetEntries ((Merge.entries? nodes place).getD [])

/-- Meets the parts of a pair, which is a mapping with one entry. -/
def meetPair (place : Nat) : Read Unit := do
  match (← node place).content with
  | .mapping [(key, value)] =>
    meet key
    meet value
  | _ => fail

/-- Opens a list or mapping. -/
def openNode (place : Nat) : Read Unit := do
  let n ← node place
  match n.tag, n.content with
  | .list, .sequence items => items.forM meet
  | .pairs, .sequence items => items.forM meetPair
  | .mapping, .mapping _ => openMapping place
  | .set, .mapping _ => openMapping place
  | _, _ => fail

/-- Opens all that is waiting. -/
def openAll : (fuel : Nat) → Read Unit
  | 0 => return ()
  | fuel + 1 => do
    match (← get).waiting with
    | [] => return ()
    | place :: rest =>
      modify fun r ↦ { r with waiting := rest }
      openNode place
      openAll fuel

end Read

namespace Reader

/-- The pair that a mapping with one entry stands for. -/
def pair? (r : Reader) (place : Nat) : Option (Nat × Nat) :=
  (Merge.entries? r.nodes place).bind List.head?

/-- The value of a node that has been read. It is found on one of the `free` first levels or inside the
nodes `around` it. -/
def unfold (r : Reader) : (fuel free : Nat) → (around : List Nat) → (place : Nat) → Value
  | 0, _, _, _ => .null
  | fuel + 1, free, around, place =>
    match r.met.lookup place, r.nodes[place]? with
    | some (some v), _ => v
    | _, none => .null
    | _, some n =>
      let isMapping := match n.content with
        | .mapping _ => true
        | _ => false
      if free = 0 && around.contains place then .inside isMapping
      else
        let part := unfold r fuel (free - 1) (if free = 0 then place :: around else around)
        match n.tag, n.content with
        | .set, .mapping entries => .set (Value.distinct (entries.map fun (key, _) ↦ part key))
        | .pairs, .sequence items =>
          .pairs ((items.filterMap r.pair?).map fun (key, value) ↦ (part key, part value))
        | _, .mapping entries =>
          .ofEntries (entries.map fun (key, value) ↦ (part key, part value))
        | _, .sequence items => .list (items.map part)
        | _, _ => .null

end Reader

namespace Value

/-- The value that a text says. -/
def ofDocument (free : Nat) (text : String) : Except ReadFault Value := do
  let graph ← (Graph.ofText text).mapError .ofScan
  let read : Read Unit := do
    Read.meet graph.root
    Read.openAll (graph.nodes.size + 1)
  let (_, r) ← read.run ⟨graph.nodes, [], []⟩
  return r.unfold (free + graph.nodes.size + 1) free [] graph.root

end Value

end Scaffold.Document
