import Scaffold.Config.Table
import Scaffold.Resolution.Closure
import Scaffold.Resolution.Prompt

/-!
# Resolving variables

Every variable that an installation needs gets a value.

1. Supplied values are taken as they are.
2. A variable whose value does not come from others is asked for. Its default is offered, or else the
   value of its transform, which refers to no variable.
3. The other variables are computed from their transforms, each after those it depends on.
4. A computed value that its definition does not let pass unasked is offered for confirmation. What
   is answered there does not change what has been computed from it.

When nobody can be asked, what would be offered is taken. A variable of the second kind with nothing
to offer is then left without a value, and all such variables are reported together.
-/

namespace Scaffold

/-- Why variables have no values. -/
inductive ResolutionError where
  /-- There is nobody to ask for the values of variables. -/
  | unresolved (names : List String)
  /-- The user has abandoned the question for a variable. -/
  | abandoned (name : String)
  /-- The one to be asked cannot be asked. -/
  | unanswering
  /-- A transform has no value. -/
  | transform (error : TransformError)
  /-- Variables depend on each other in a circle. -/
  | circular (error : CircularDependency)
deriving DecidableEq, Repr

namespace ResolutionError

/-- Why variables have no values, in words. -/
def message : ResolutionError → String
  | unresolved names =>
    "No value available for variables: " ++ String.intercalate ", " names ++
      " (supply them with -v NAME=VALUE or run interactively)"
  | abandoned name => s!"Aborted while asking for variable '{name}'"
  | unanswering => ""
  | transform error => error.message
  | circular error => error.message

end ResolutionError

/-- Resolving variables in a conversation. -/
abbrev Resolving := ExceptT ResolutionError (StateM Conversation)

namespace Resolution

/-- The values of variables while they are resolved. -/
abbrev Values := Bindings (Option String)

/-- The value of a variable, if it has one by now. -/
def valueOf (values : Values) (name : String) : Option String := (values.get? name).join

/-- Asks for the value of a variable. -/
def ask (prompter : Prompter) (p : Prompt) : Resolving String := do
  if prompter = .unanswering then throw .unanswering
  let (answer, c) := (← get).ask p
  set c
  match answer with
  | some text => return text
  | none => throw (.abandoned p.name)

/-- The value of a transform. -/
def compute (expression : String) (values : Values) : Resolving String := do
  let result := evaluate expression (valueOf values)
  modify (·.report (result.trace.map .transform))
  match result.outcome with
  | .ok text => return text
  | .error e => throw (.transform e)

/-- What is offered for a variable whose value does not come from others. -/
def leafOffer (definition : Option Definition) (values : Values) : Resolving (Option String) :=
  match definition with
  | none => return none
  | some d =>
    match d.default?, d.transform? with
    | none, some expression => do return some (← compute expression values)
    | _, _ => return d.default

/-- The value of a variable that does not come from others, if there is any. -/
def leafValue (prompter : Prompter) (name : String) (definition : Option Definition)
    (values : Values) : Resolving (Option String) := do
  let offer ← leafOffer definition values
  match prompter with
  | .nobody => return offer.filter (!·.isEmpty)
  | _ => return some (← ask prompter ⟨name, offer⟩)

/-- A variable that is computed from others. -/
def isDerived (table : Table) (name : String) : Bool :=
  (table.find? name).any (!·.isLeaf)

/-- Gives values to the variables that do not come from others, and returns those for which there is
none. -/
def resolveLeaves (prompter : Prompter) (table : Table) :
    List String → Values → Resolving (List String × Values)
  | [], values => return ([], values)
  | name :: names, values => do
    if (valueOf values name).isSome || isDerived table name then
      resolveLeaves prompter table names values
    else
      let value ← leafValue prompter name (table.find? name) values
      let (unresolved, values) ← resolveLeaves prompter table names (values.insert name value)
      return (if value.isNone then name :: unresolved else unresolved, values)

/-- The transform of a variable. -/
def transformOf (table : Table) (name : String) : String :=
  ((table.find? name).bind Definition.transform).getD ""

/-- Computes variables one after the other. -/
def computeAll (table : Table) : List String → Values → Resolving Values
  | [], values => return values
  | name :: names, values => do
    let value ← compute (transformOf table name) values
    computeAll table names (values.insert name (some value))

/-- Has computed values confirmed one after the other. -/
def confirmAll (prompter : Prompter) (table : Table) : List String → Values → Resolving Values
  | [], values => return values
  | name :: names, values => do
    if (table.find? name).any Definition.skipIfDefined then
      confirmAll prompter table names values
    else
      let value ← ask prompter ⟨name, valueOf values name⟩
      confirmAll prompter table names (values.insert name (some value))

/-- The names that have values, with their values. -/
def settled (values : Values) : List (String × String) :=
  values.entries.filterMap fun (name, value) ↦ value.map (name, ·)

/-- The variables that are to be resolved, with the values supplied for them. -/
def start (catalogue : Catalogue) (supplied : String → Option String)
    (files selected : List String) (table : Table) : Values :=
  closure table.dependencies (table.entries.flatMap (·.2.dependencies)).length supplied
    (seed supplied (needed catalogue files selected))

/-- Gives every variable that the selected files need a value. -/
def resolve (prompter : Prompter) (catalogue : Catalogue) (supplied : String → Option String)
    (files selected : List String) (table : Table) : Resolving (List (String × String)) := do
  let values := start catalogue supplied files selected table
  let (unresolved, values) ← resolveLeaves prompter table values.keys values
  if !unresolved.isEmpty then throw (.unresolved unresolved)
  match table.solvingOrder (unvalued values) with
  | .error e => throw (.circular e)
  | .ok derived =>
    let values ← computeAll table derived values
    if prompter = .nobody then return settled values
    return settled (← confirmAll prompter table derived values)

end Resolution

end Scaffold
