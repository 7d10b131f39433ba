import Scaffold.Document.Node

/-!
# Merging mappings

A mapping may merge other mappings in: one mapping, or those of a list, of which the first wins. What is
merged in comes before the entries of the mapping itself, which therefore win. Mappings that are merged
in have their own merging done first. A mapping may come to be merged into itself; each mark is taken
out before what it asks for is done, so that merging ends.
-/

namespace Scaffold.Document.Merge

/-- The entries of a mapping. -/
def entries? (nodes : Array Node) (place : Nat) : Option (List (Nat × Nat)) :=
  match nodes[place]? with
  | some ⟨_, .mapping entries⟩ => some entries
  | _ => none

/-- The nodes with other entries for a mapping. -/
def setEntries (nodes : Array Node) (place : Nat) (entries : List (Nat × Nat)) : Array Node :=
  nodes.modify place fun n ↦ { n with content := .mapping entries }

/-- The node is of a kind. -/
def hasTag (nodes : Array Node) (tag : Tag) (place : Nat) : Bool :=
  nodes[place]?.any (·.tag == tag)

/-- The nodes after the marks of values that stand for their mappings have become texts among the keys
of some entries. -/
def unmark (nodes : Array Node) (entries : List (Nat × Nat)) : Array Node :=
  entries.foldl
    (fun nodes (key, _) ↦
      if hasTag nodes .default key then nodes.modify key fun n ↦ { n with tag := .text } else nodes)
    nodes

/-- The places of the mappings that a value asks to merge in, the one that wins last. -/
def sources? (nodes : Array Node) (value : Nat) : Option (List Nat) :=
  match nodes[value]? with
  | some ⟨_, .mapping _⟩ => some [value]
  | some ⟨_, .sequence items⟩ => some items
  | _ => none

/-- The nodes after a mapping has all its merging done, given the entries that are already known to come
in; none if something else than a mapping is merged in. -/
def flatten : (fuel : Nat) → Array Node → (place : Nat) → (merged : List (Nat × Nat)) →
    Option (Array Node)
  | 0, _, _, _ => none
  | fuel + 1, nodes, place, merged => do
    let entries ← entries? nodes place
    match entries.findIdx? fun (key, _) ↦ hasTag nodes .merge key with
    | none => return unmark (setEntries nodes place (merged ++ entries)) entries
    | some i =>
      let nodes := setEntries nodes place (entries.eraseIdx i)
      let (_, value) ← entries[i]?
      let sources ← sources? nodes value
      let (nodes, groups) ← sources.foldlM
        (fun (nodes, groups) source ↦ do
          let nodes ← flatten fuel nodes source []
          return (nodes, (← entries? nodes source) :: groups))
        (nodes, [])
      flatten fuel nodes place (merged ++ groups.flatten)

/-- The number of entries of all mappings, which bounds the number of marks. -/
def size (nodes : Array Node) : Nat :=
  nodes.foldl (fun n node ↦ match node.content with
    | .mapping entries => n + entries.length
    | _ => n) 0

/-- The nodes after a mapping has all its merging done. -/
def inPlace (nodes : Array Node) (place : Nat) : Option (Array Node) :=
  flatten (size nodes + 1) nodes place []

end Scaffold.Document.Merge
