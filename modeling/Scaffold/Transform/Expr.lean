import Scaffold.Transform.Modifier

/-!
# Transform expressions

An expression is a literal text, a reference to a variable, or a modifier applied to expressions.
-/

namespace Scaffold

/-- An expression that computes the value of a variable. -/
inductive Expr where
  /-- A text that stands for itself. -/
  | literal (text : String)
  /-- The value of another variable. -/
  | ref (name : String)
  /-- A modifier applied to arguments. -/
  | call (modifier : Modifier) (args : List Expr)

namespace Expr

mutual

/-- The variables that an expression refers to, from left to right, with repetitions. -/
def occurrences : Expr → List String
  | literal _ => []
  | ref name => [name]
  | call _ args => occurrencesAll args

/-- The variables that a list of expressions refers to, from left to right. -/
def occurrencesAll : List Expr → List String
  | [] => []
  | e :: es => occurrences e ++ occurrencesAll es

end

/-- The variables that an expression refers to, each once, in the order of first appearance. -/
def refs (e : Expr) : List String :=
  e.occurrences.eraseDups

end Expr

end Scaffold
