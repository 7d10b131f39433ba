import Scaffold.Bindings
import Scaffold.Placeholder.Catalogue

/-!
# The variables that an installation needs

An installation needs the variables of its files and, for each of them that is not supplied, the
variables that it depends on, and so on. They are found breadth first and kept in the order in which
they are found, with the values supplied for them.
-/

namespace Scaffold.Resolution

/-- The variables of the selected files, each once, in the order of first appearance. -/
def needed (catalogue : Catalogue) (files selected : List String) : List String :=
  (files.zipIdx.flatMap fun (file, index) ↦
    if selected.contains file then catalogue.variablesOf index else []).eraseDups

/-- Each variable with the value supplied for it, if any. -/
def seed (supplied : String → Option String) (names : List String) :
    Bindings (Option String) :=
  names.foldl (fun values name ↦ values.insert name (supplied name)) .empty

/-- Adds names to the values and, as far as they are not supplied, to a queue. Names with an entry
are passed over. -/
def discover (supplied : String → Option String) :
    List String → List String → Bindings (Option String) → List String × Bindings (Option String)
  | [], queue, values => (queue, values)
  | name :: names, queue, values =>
    if values.contains name then discover supplied names queue values
    else
      discover supplied names (if (supplied name).isNone then queue ++ [name] else queue)
        (values.insert name (supplied name))

/-- Adds what the names in a queue depend on, then what that depends on, and so on. The fuel bounds
the names that can come to the head of the queue. -/
def spread (dependencies : String → List String) (supplied : String → Option String) :
    (fuel : Nat) → List String → Bindings (Option String) → Bindings (Option String)
  | 0, _, values => values
  | _ + 1, [], values => values
  | fuel + 1, name :: queue, values =>
    let (queue, values) := discover supplied (dependencies name) queue values
    spread dependencies supplied fuel queue values

/-- The names without a value. -/
def unvalued (values : Bindings (Option String)) : List String :=
  (values.entries.filter fun (_, value) ↦ value.isNone).map Prod.fst

/-- The values with everything added that the names without a value depend on, through names that are
not supplied. The number of different names that anything depends on is at most `bound`. -/
def closure (dependencies : String → List String) (bound : Nat)
    (supplied : String → Option String) (values : Bindings (Option String)) :
    Bindings (Option String) :=
  let queue := unvalued values
  spread dependencies supplied (queue.length + bound) queue values

end Scaffold.Resolution
