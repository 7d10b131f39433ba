import Scaffold.Pattern.Parser
import Scaffold.Pattern.Replacement
import Scaffold.Text.Split
import Scaffold.Traced
import Scaffold.Transform.Modifier
import Scaffold.Transform.Recase

/-!
# Applying modifiers

A modifier turns texts into a text. What goes wrong is noted and leaves a value to go on with: too
few arguments and an index that is no number give the empty text, and a pattern that cannot be read
leaves the value as it is. Three oversights in a pattern are failures instead: a number of
repetitions beyond all bounds, one with more digits than are read, and classes that are to be those
of ASCII and of Unicode at once.
-/

namespace Scaffold

/-- What a modifier notes. -/
inductive ModifierWarning where
  /-- Arguments are missing. -/
  | tooFewArguments (modifier : Modifier) (given : Nat)
  /-- The index of a part is no number. -/
  | badIndex (text : String)
  /-- The pattern cannot be read. -/
  | badPattern (text : String)
deriving DecidableEq, Repr

/-- What is noted, in words. The reason why a pattern cannot be read, which would follow after a
colon, is left out. -/
def ModifierWarning.message : ModifierWarning → String
  | tooFewArguments modifier given =>
    s!"{modifier.name}: expected at least {modifier.required} argument(s), got {given}"
  | badIndex text => s!"splitPart: index '{text}' is not a number"
  | badPattern text => s!"replace: invalid pattern '{text}'"

/-- Why a modifier has no value. -/
inductive ModifierFault where
  /-- A number of repetitions is too large. -/
  | tooManyCopies
  /-- A number of repetitions has too many digits to be read. -/
  | longNumeral (digits : Nat)
  /-- Classes are to be those of ASCII and of Unicode. -/
  | mixedClasses
deriving DecidableEq, Repr

/-- Why there is no value, in words. -/
def ModifierFault.message : ModifierFault → String
  | tooManyCopies => "the repetition number is too large"
  | longNumeral digits => Text.Numeral.Fault.message 10 "" (.tooLong digits)
  | mixedClasses => "ASCII and UNICODE flags are incompatible"

/-- A text, or a failure, with what was noted on the way. -/
abbrev Modified := Traced ModifierWarning ModifierFault

namespace Modifier

/-- A name that no modifier has, in words. -/
def unknownMessage (name : String) : String :=
  s!"{Text.Quoted.string name} is not a valid Modifier"

/-- The settings that the flags of a replacement ask for. -/
def modeOfFlags (flags : List Char) : Pattern.Mode :=
  { Pattern.Mode.plain with
    ignoreCase := flags.contains 'i'
    multiline := flags.contains 'm'
    dotAll := flags.contains 's' }

/-- The value with the matches of a pattern replaced: all of them if the flags hold `g`, else the
first. -/
def replaceIn (value pattern replacement flags : String) : Modified String :=
  match Pattern.parse pattern.toList (modeOfFlags flags.toList) with
  | .ok p =>
    .ok (String.ofList (p.replace replacement.toList (flags.toList.contains 'g') value.toList))
  | .error .malformed => ⟨[.badPattern pattern], .ok value⟩
  | .error .tooManyCopies => .fail .tooManyCopies
  | .error (.longNumeral digits) => .fail (.longNumeral digits)
  | .error .mixedClasses => .fail .mixedClasses

/-- The part of the value with the given number, counted from zero. -/
def partOf (value separator index : String) : Modified String :=
  match Text.Numeral.integer 10 index.toList with
  | .error _ => ⟨[.badIndex index], .ok ""⟩
  | .ok (.negSucc _) => .ok ""
  | .ok (.ofNat n) =>
    .ok (String.ofList ((Text.split separator.toList value.toList)[n]?.getD []))

/-- The arguments one after the other. -/
def joinAll (separator : String) (values : List String) : String :=
  String.ofList (Text.join separator.toList (values.map String.toList))

/-- A modifier of one value. -/
def onText (f : List Char → List Char) (value : String) : Modified String :=
  .ok (String.ofList (f value.toList))

/-- The value of a modifier for given arguments. Arguments beyond those it knows are ignored. -/
def apply (modifier : Modifier) (args : List String) : Modified String :=
  match modifier, args with
  | camelCase, value :: _ => onText Recase.camel value
  | pascalCase, value :: _ => onText Recase.pascal value
  | snakeCase, value :: _ => onText Recase.snake value
  | upperSnakeCase, value :: _ => onText Recase.upperSnake value
  | kebabCase, value :: _ => onText Recase.kebab value
  | spaceCase, value :: _ => onText Recase.space value
  | upperCase, value :: _ => onText Text.upper value
  | lowerCase, value :: _ => onText Text.lower value
  | replace, value :: pattern :: replacement :: rest =>
    replaceIn value pattern replacement (rest.headD "")
  | concat, values => .ok (joinAll "" values)
  | join, separator :: values => .ok (joinAll separator values)
  | splitPart, value :: separator :: index :: _ => partOf value separator index
  | modifier, args => ⟨[.tooFewArguments modifier args.length], .ok ""⟩

end Modifier

end Scaffold
