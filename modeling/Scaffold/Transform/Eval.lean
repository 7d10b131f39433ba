import Scaffold.Transform.Apply
import Scaffold.Transform.Parser

/-!
# Evaluating transform expressions

An expression is evaluated from the inside out, arguments from left to right. A reference to a
variable without a value stands for its own name.
-/

namespace Scaffold

namespace Expr

mutual

/-- The value of an expression, given the values of variables. -/
def eval (values : String → Option String) : Expr → Modified String
  | literal text => .ok text
  | ref name => .ok ((values name).getD name)
  | call modifier args => (evalAll values args).andThen modifier.apply

/-- The values of expressions, from left to right. -/
def evalAll (values : String → Option String) : List Expr → Modified (List String)
  | [] => .ok []
  | e :: es =>
    (eval values e).andThen fun text ↦ (evalAll values es).andThen fun texts ↦ .ok (text :: texts)

end

end Expr

/-- Why a written expression has no value. -/
inductive TransformError where
  /-- It cannot be read. -/
  | badSyntax (error : SyntaxError)
  /-- A modifier fails. -/
  | modifier (fault : ModifierFault)
deriving DecidableEq, Repr

/-- Why a written expression has no value, in words. -/
def TransformError.message : TransformError → String
  | badSyntax error => error.message
  | modifier fault => fault.message

/-- What is noted while a written expression is evaluated. -/
inductive TransformNote where
  /-- A modifier's warning. -/
  | warning (warning : ModifierWarning)
  /-- The value of the whole expression. -/
  | result (expression value : String)
deriving DecidableEq, Repr

/-- What is noted, in words. -/
def TransformNote.message : TransformNote → String
  | warning w => w.message
  | result expression value => s!"Transform {expression} -> '{value}'"

/-- The value of a written expression, given the values of variables. -/
def evaluate (expression : String) (values : String → Option String) :
    Traced TransformNote TransformError String :=
  match Expr.parse expression with
  | .error e => .fail (.badSyntax e)
  | .ok tree =>
    ((tree.eval values).mapNotes .warning .modifier).andThen fun value ↦
      ⟨[.result expression value], .ok value⟩

end Scaffold
