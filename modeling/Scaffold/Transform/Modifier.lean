/-!
# Modifiers

The operations that a transform expression may apply, with the names they are called by and the
number of arguments each needs before it can do anything.
-/

namespace Scaffold

/-- An operation on texts. -/
inductive Modifier where
  | camelCase
  | pascalCase
  | snakeCase
  | upperSnakeCase
  | kebabCase
  | spaceCase
  | upperCase
  | lowerCase
  | replace
  | concat
  | join
  | splitPart
deriving DecidableEq, Repr

namespace Modifier

/-- All modifiers, in the order in which they are listed to the user. -/
def all : List Modifier :=
  [camelCase, pascalCase, snakeCase, upperSnakeCase, kebabCase, spaceCase, upperCase, lowerCase,
    replace, concat, join, splitPart]

/-- The name a modifier is called by. -/
def name : Modifier → String
  | camelCase => "camelCase"
  | pascalCase => "pascalCase"
  | snakeCase => "snakeCase"
  | upperSnakeCase => "upperSnakeCase"
  | kebabCase => "kebabCase"
  | spaceCase => "spaceCase"
  | upperCase => "upperCase"
  | lowerCase => "lowerCase"
  | replace => "replace"
  | concat => "concat"
  | join => "join"
  | splitPart => "splitPart"

/-- The modifier of a given name. -/
def ofName? (name : String) : Option Modifier :=
  all.find? (·.name == name)

/-- The least number of arguments. -/
def required : Modifier → Nat
  | replace => 3
  | concat => 0
  | join => 1
  | splitPart => 3
  | _ => 1

@[simp]
theorem ofName?_name (m : Modifier) : ofName? m.name = some m := by
  cases m <;> decide

theorem name_of_ofName? {text : String} {m : Modifier} (h : ofName? text = some m) :
    m.name = text := by
  simpa using List.find?_some h

end Modifier

end Scaffold
