import Scaffold.Text.Case

/-!
# Re-casing

The modifiers that put a value into a spelling of its words: `camelCase`, `PascalCase`,
`snake_case`, `UPPER_SNAKE_CASE`, `kebab-case` and `space case`.

Words are told apart in one of two ways. A value that holds anything but ASCII letters and digits is
lowered, and the other characters separate its words. A value of ASCII letters and digits alone is
read as words run together, each beginning with a capital after a small letter or digit.
-/

namespace Scaffold.Recase

open Text

/-- The value holds something other than ASCII letters and digits. -/
def isSeparated (value : List Char) : Bool :=
  value.any (!isAsciiAlphanumeric ·)

/-- A small letter or a digit of ASCII. -/
def isSmall (c : Char) : Bool :=
  isAsciiLower c || isAsciiDigit c

/-- A separator before each capital that follows a small letter or digit. -/
def splitHumps (separator : Char) : List Char → List Char
  | a :: b :: rest =>
    if isSmall a && isAsciiUpper b then a :: separator :: splitHumps separator (b :: rest)
    else a :: splitHumps separator (b :: rest)
  | short => short

/-- The words in small letters, joined by a separator. -/
def separate (separator : Char) (value : List Char) : List Char :=
  if isSeparated value then
    (lower value).map fun c ↦ if isAsciiAlphanumeric c then c else separator
  else lower (splitHumps separator value)

/-- Each small letter or digit after a separator becomes a capital and takes its place. -/
def joinHumps : List Char → List Char
  | a :: b :: rest =>
    if !isSmall a && isSmall b then asciiUpper b :: joinHumps rest else a :: joinHumps (b :: rest)
  | short => short

/-- The value with its first character changed. -/
def mapFirst (f : Char → Char) : List Char → List Char
  | [] => []
  | c :: rest => f c :: rest

/-- Words run together, each but the first with a capital. -/
def camel (value : List Char) : List Char :=
  if isSeparated value then joinHumps (lower value) else mapFirst asciiLower value

/-- Words run together, each with a capital. -/
def pascal (value : List Char) : List Char :=
  mapFirst asciiUpper (camel value)

/-- Small words with underscores between them. -/
def snake (value : List Char) : List Char := separate '_' value

/-- Words in capitals with underscores between them. -/
def upperSnake (value : List Char) : List Char := upper (snake value)

/-- Small words with hyphens between them. -/
def kebab (value : List Char) : List Char := separate '-' value

/-- Small words with spaces between them. -/
def space (value : List Char) : List Char := separate ' ' value

end Scaffold.Recase
