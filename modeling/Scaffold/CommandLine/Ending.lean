import Scaffold.Blueprint.Load
import Scaffold.CommandLine.Supplied
import Scaffold.Install.Basic

/-!
# How commands end

A command that fails says why and ends with an exit code: two if what it was given is invalid, one
otherwise. What the system refuses, and scalars that are no values of their kinds in ways that are not
told apart, are unexpected.
-/

namespace Scaffold.CommandLine

open Document

/-- Why a command has failed, in words, and its exit code. -/
structure Ending where
  /-- The reason. -/
  message : String
  /-- The exit code. -/
  code : Nat
deriving DecidableEq, Repr

namespace Ending

/-- A file is missing. -/
def missing (message : String) : Ending := ⟨"File not found: " ++ message, 1⟩

/-- Something that was given is invalid. -/
def invalid (message : String) : Ending := ⟨"Validation error: " ++ message, 2⟩

/-- The command was refused or abandoned. -/
def refused (message : String) : Ending := ⟨message, 1⟩

/-- Something else has happened. What it is, which would follow after a colon, is left out. -/
def unexpected : Ending := ⟨"Unexpected error", 1⟩

/-- The ending after a document without a value. -/
def ofDocument (fault : ReadFault) : Ending :=
  match fault with
  | .noCodePoint code => if code ≤ 0x7FFFFFFF then invalid fault.message else unexpected
  | .noInteger _ _ _ => invalid fault.message
  | .noReal _ => invalid fault.message
  | .badMoment _ => invalid fault.message
  | _ => unexpected

/-- The ending after values that cannot be supplied. -/
def ofSupply : SupplyError → Ending
  | .missing file => missing s!"Variables file not found: {file}"
  | .system _ => unexpected
  | .notText fault => invalid fault.message
  | .document fault => ofDocument fault
  | .notMapping type => invalid s!"Variables file must contain an object, got {type}"
  | .unwritable => invalid Value.unwritableMessage
  | .noValue item => invalid s!"Invalid variable format: {item}. Expected KEY=VALUE"
  | .noName item => invalid s!"Invalid variable format: {item}. KEY cannot be empty"

/-- The ending after a configuration that cannot be loaded. -/
def ofLoad : LoadError → Ending
  | .config (.invalid problems) => ⟨Problem.message problems, 2⟩
  | .config .unwritable => invalid Value.unwritableMessage
  | .nullCharacter e => invalid e.message
  | .notText fault => invalid fault.message
  | .scalar fault => ofDocument fault

/-- The ending after a blueprint that cannot be read. -/
def ofBlueprint : BlueprintError → Ending
  | .missing path => missing s!"Blueprint not found: {path.text}"
  | .system _ => unexpected
  | .nullCharacter e => invalid e.message
  | .config e => ofLoad e
  | .catalogue (.badPlaceholders ps) => ⟨Problem.message (ps.map .ofPlaceholder), 2⟩
  | .catalogue (.wrapper e) => invalid e.message
  | .catalogue (.nullCharacter e) => invalid e.message

/-- The ending after a transform without value. -/
def ofTransform (e : TransformError) : Ending :=
  match e with
  | .modifier .tooManyCopies => unexpected
  | _ => invalid e.message

/-- The ending after variables that are not resolved. -/
def ofResolution (e : ResolutionError) : Ending :=
  match e with
  | .unresolved _ => refused e.message
  | .abandoned _ => refused e.message
  | .unanswering => unexpected
  | .transform e => ofTransform e
  | .circular e => invalid e.message

/-- The ending after a file that cannot be rendered. -/
def ofRender : RenderError → Ending
  | .refused e => refused e.message
  | .wrapper e => invalid e.message
  | .undefinedVariables e => invalid e.message
  | .nullCharacter e => invalid e.message
  | .system _ => unexpected

/-- The ending after an installation that has failed. -/
def ofInstall : InstallFailure → Ending
  | .refused e => refused e.message
  | .nullCharacter e => invalid e.message
  | .resolution e => ofResolution e
  | .render e => ofRender e
  | .system _ => unexpected

end Ending

end Scaffold.CommandLine
