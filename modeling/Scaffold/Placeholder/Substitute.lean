import Scaffold.Placeholder.Wrapper
import Scaffold.Text.Caseless
import Scaffold.Text.Quoted
import Scaffold.Text.Rule

/-!
# Filling in placeholders

The placeholders of a file are filled in variable by variable: each in turn has all its placeholders
replaced by its value, letters agreeing without regard to case. Values stand as they are; a value
that a variable has put in the text is text to the variables after it.
-/

namespace Scaffold

/-- Variables have no values. -/
structure UndefinedVariables where
  /-- The variables. -/
  names : List String
deriving DecidableEq, Repr

/-- Which variables have no values, in words. -/
def UndefinedVariables.message (e : UndefinedVariables) : String :=
  s!"Undefined variables: {Text.Quoted.list (e.names.mergeSort fun a b ↦ decide (a ≤ b))}"

namespace Placeholder

/-- A given text at the beginning of a text, without regard to case. -/
def literalRule (expected : List Char) : Text.Rule Unit := fun text ↦
  (Text.dropCaseless? expected text).map fun _ ↦ ⟨(), expected.length - 1⟩

/-- The value before every character and at the end. -/
def interleave (value : List Char) : List Char → List Char
  | [] => value
  | c :: rest => value ++ c :: interleave value rest

/-- The text with every occurrence of a given text, which is at every place if it is empty, replaced
by a value. -/
def replaceLiteral (expected value text : List Char) : List Char :=
  if expected.isEmpty then interleave value text
  else (literalRule expected).replace (fun _ ↦ value) text

/-- The text with the placeholders of a variable replaced by its value. -/
def fillOne (w : Wrapper) (text : List Char) (name value : String) : List Char :=
  replaceLiteral (w.wrap name).toList value.toList text

/-- The text with the placeholders of the given variables filled in, one variable after another. -/
def fill (w : Wrapper) (values : String → Option String) (names : List String) (text : String) :
    Except UndefinedVariables String :=
  match names.filter fun name ↦ (values name).isNone with
  | [] =>
    .ok (String.ofList (names.foldl
      (fun text name ↦ fillOne w text name ((values name).getD "")) text.toList))
  | missing => .error ⟨missing⟩

end Placeholder

end Scaffold
