import Scaffold.Config.Table
import Scaffold.Placeholder.Catalogue

/-!
# Problems of blueprints

What can be wrong with the configuration of a blueprint or with its placeholders. All the problems
that are found are reported together, each with the place that it concerns.
-/

namespace Scaffold

/-- What is wrong with a blueprint. -/
inductive Fault where
  /-- The configuration cannot be read. -/
  | unreadable
  /-- The configuration is no mapping. -/
  | notMapping
  /-- A field is not known. -/
  | unknownField (field : String)
  /-- A value that must be a text has another type. -/
  | notText (field type : String)
  /-- A text is no wrapper. -/
  | badWrapper (field : String) (error : WrapperError)
  /-- The list of wrappers for extensions is no list. -/
  | overridesNotList
  /-- An entry of that list is no mapping. -/
  | overrideNotMapping (index : Nat)
  /-- An entry of that list names no extension. -/
  | overrideWithoutExtension (index : Nat)
  /-- An entry of that list has no wrapper. -/
  | overrideWithoutWrapper (index : Nat)
  /-- The table of transforms is no mapping. -/
  | tableNotMapping
  /-- A name is no variable name. -/
  | badName (name : String) (fault : NameFault)
  /-- A definition is no mapping. -/
  | definitionNotMapping
  /-- A transform is no text, or the empty one. -/
  | emptyTransform
  /-- A transform cannot be read. -/
  | badTransform (error : SyntaxError)
  /-- A value that must be true or false has another type. -/
  | notTruthValue (type : String)
  /-- A default has a type that no value has. -/
  | badDefault (type : String)
  /-- A variable depends on itself. -/
  | circular (path : List Key)
deriving DecidableEq, Repr

/-- The name of an entry in the list of wrappers for extensions. -/
def overrideField (index : Nat) : String := s!"variableWrappers[{index}]"

/-- What is wrong, in words. The reason why a configuration cannot be read, which would follow after a
colon, is left out. -/
def Fault.message : Fault → String
  | unreadable => "Failed to load blueprint config"
  | notMapping => "Blueprint config must be an object/dictionary"
  | unknownField field => s!"Unknown field '{field}'"
  | notText field type => s!"'{field}' must be a string, got {type}"
  | badWrapper field error => s!"'{field}': {error.message}"
  | overridesNotList => "'variableWrappers' must be a list"
  | overrideNotMapping index => s!"'{overrideField index}' must be a dictionary"
  | overrideWithoutExtension index =>
    s!"'{overrideField index}' requires a non-empty 'extension' string"
  | overrideWithoutWrapper index => s!"'{overrideField index}' requires a 'wrapper' string"
  | tableNotMapping => "'variableTransform' must be a dictionary"
  | badName name fault => fault.message name
  | definitionNotMapping => "must be a dictionary"
  | emptyTransform => "'transform' must be a non-empty string"
  | badTransform error => error.message
  | notTruthValue type => s!"'skipIfDefined' must be a boolean, got {type}"
  | badDefault type => s!"'default' must be a string, got {type}"
  | circular path => cycleMessage path

/-- Something that is wrong with a blueprint, and where. -/
structure Problem where
  /-- What is wrong. -/
  fault : Fault
  /-- Where it is wrong; empty if it is the whole. -/
  place : String
deriving DecidableEq, Repr

namespace Problem

/-- The problem of a placeholder. -/
def ofPlaceholder (p : BadPlaceholder) : Problem := ⟨.badName p.name p.fault, p.file⟩

/-- The problem of a table with a cycle. -/
def ofCycle (path : List Key) : Problem := ⟨.circular path, "variableTransform"⟩

/-- The problem and its place in one line. -/
def line (p : Problem) : String :=
  let place := if p.place.isEmpty then "" else p.place ++ ": "
  "Validation error: " ++ place ++ p.fault.message

/-- Problems in words, a line for each. -/
def message (problems : List Problem) : String :=
  String.intercalate "\n" (problems.map line)

end Problem

namespace Table

/-- The problem of a table in which a variable depends on itself, if it has one. -/
def problem? (t : Table) : Option Problem := t.findCycle.map .ofCycle

end Table

end Scaffold
