import Scaffold.Text.Classes

/-!
# Variable names

A variable name has at least two characters: an ASCII letter, then ASCII letters, digits, hyphens
and underscores, the last of which is neither hyphen nor underscore. A line break at the very end
does not count as part of the shape.
-/

namespace Scaffold

/-- What keeps a text from naming a variable. -/
inductive NameFault where
  /-- The name has fewer than two characters. -/
  | tooShort
  /-- The name does not begin with a letter or holds a foreign character. -/
  | badCharacter
  /-- The name ends with a hyphen or an underscore. -/
  | badEnd
deriving DecidableEq, Repr

namespace NameFault

/-- What keeps `name` from naming a variable, in words. -/
def message (name : String) : NameFault → String
  | tooShort => s!"Variable '{name}' must be at least 2 characters long"
  | badCharacter =>
    s!"Variable '{name}' must start with a letter and only contain letters, digits, '-' or '_'"
  | badEnd => s!"Variable '{name}' must not end with '-' or '_'"

end NameFault

namespace VariableName

/-- A character that may stand after the first. -/
def isInner (c : Char) : Bool :=
  Text.isAsciiAlphanumeric c || c == '-' || c == '_'

/-- The text without a line break at its very end. -/
def dropFinalBreak (text : List Char) : List Char :=
  if text.getLast? = some '\n' then text.dropLast else text

/-- The shape of a name: a letter, then inner characters. -/
def isShaped (text : List Char) : Bool :=
  match dropFinalBreak text with
  | [] => false
  | c :: rest => Text.isAsciiLetter c && rest.all isInner

/-- What keeps a text from naming a variable, if anything does. -/
def fault? (name : String) : Option NameFault :=
  let chars := name.toList
  if chars.length < 2 then some .tooShort
  else if !isShaped chars then some .badCharacter
  else if chars.getLast?.any fun c ↦ c == '-' || c == '_' then some .badEnd
  else none

/-- What keeps a text from naming a variable, in words. -/
def problem? (name : String) : Option String :=
  (fault? name).map (·.message name)

end VariableName

end Scaffold
