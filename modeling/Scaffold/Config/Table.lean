import Scaffold.Dependency.Cycle
import Scaffold.Dependency.Order
import Scaffold.Text.Quoted
import Scaffold.Transform.Parser

/-!
# The table of transforms

A blueprint may say, for some of its variables, how their values are found: by a transform of other
variables, by a default, or by asking. The table lists these definitions by variable, in the order in
which they are configured. A configured key that is no text names no variable, even if it is shown
like one.
-/

namespace Scaffold

/-- How the value of a variable is found. -/
structure Definition where
  /-- The transform that computes the value. -/
  transform : Option String
  /-- A computed value is taken without asking. -/
  skipIfDefined : Bool
  /-- The value that is suggested when the user is asked. -/
  default : Option String
  /-- The variables that the transform refers to. -/
  dependencies : List String
deriving DecidableEq, Repr

namespace Definition

/-- A definition that says nothing. -/
def empty : Definition := ⟨none, false, none, []⟩

/-- The transform, unless there is none or it is the empty text. -/
def transform? (d : Definition) : Option String :=
  d.transform.filter (!·.isEmpty)

/-- The default, unless there is none or it is the empty text. -/
def default? (d : Definition) : Option String :=
  d.default.filter (!·.isEmpty)

/-- The value does not come from other variables. -/
def isLeaf (d : Definition) : Bool :=
  d.transform?.isNone || d.dependencies.isEmpty

end Definition

/-- A key of a table. -/
structure Key where
  /-- The key as it is shown. -/
  text : String
  /-- The type of a key that is no text. -/
  foreign : Option String
deriving DecidableEq, Repr

/-- The key of a variable. -/
def Key.ofName (name : String) : Key := ⟨name, none⟩

/-- The definitions of variables. -/
structure Table where
  /-- The definitions in order. -/
  entries : List (Key × Definition)
deriving Repr

/-- There are variables that depend on each other in a circle. -/
structure CircularDependency where
  /-- The variables that are left without an order. -/
  names : List String
deriving DecidableEq, Repr

/-- Which variables depend on each other, in words. -/
def CircularDependency.message (e : CircularDependency) : String :=
  s!"Circular dependency between variables: {Text.Quoted.list e.names}"

namespace Table

/-- No definitions. -/
def empty : Table := ⟨[]⟩

/-- The definition of a variable. -/
def find? (t : Table) (name : String) : Option Definition :=
  t.entries.lookup (.ofName name)

/-- The variables that a variable depends on. -/
def dependencies (t : Table) (name : String) : List String :=
  match t.find? name with
  | some d => d.dependencies
  | none => []

/-- The keys that a key depends on. -/
def keyDependencies (t : Table) (key : Key) : List Key :=
  match t.entries.lookup key with
  | some d => d.dependencies.map .ofName
  | none => []

/-- A cycle of keys, if there is one. -/
def findCycle (t : Table) : Option (List Key) :=
  Dependency.findCycle t.keyDependencies (t.entries.map (·.1))

/-- The variables in an order in which each comes after those it depends on. -/
def solvingOrder (t : Table) (names : List String) : Except CircularDependency (List String) :=
  (Dependency.order t.dependencies names).mapError .mk

end Table

/-- What is wrong with a table in which the given path leads from a key back to it, in words. -/
def cycleMessage (path : List Key) : String :=
  match path with
  | [a, _] => s!"Variable '{a.text}' depends on itself"
  | _ =>
    "Circular dependency between variables: " ++ String.intercalate " -> " (path.map Key.text)

end Scaffold
