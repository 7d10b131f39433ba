/-!
# Tokens of patterns

A pattern is read token by token: a character, or a backslash with the character after it. A
backslash that ends the pattern is noticed as soon as the token before it has been read.
-/

namespace Scaffold.Pattern

/-- A token. -/
inductive Token where
  /-- A character other than a backslash. -/
  | char (c : Char)
  /-- A backslash and the character after it. -/
  | escape (c : Char)
  /-- A backslash at the end. -/
  | dangling
deriving DecidableEq, Repr

/-- The tokens of a text. -/
def Token.ofChars : List Char → List Token
  | [] => []
  | ['\\'] => [dangling]
  | '\\' :: c :: rest => escape c :: ofChars rest
  | c :: rest => char c :: ofChars rest

/-- The characters of a token. -/
def Token.chars : Token → List Char
  | char c => [c]
  | escape c => ['\\', c]
  | dangling => ['\\']

/-- Why a text is no pattern. -/
inductive Fault where
  /-- The text does not have the form of a pattern. -/
  | malformed
  /-- A number of repetitions is too large. -/
  | tooManyCopies
  /-- A number of repetitions has too many digits to be read. -/
  | longNumeral (digits : Nat)
  /-- Classes cannot be those of ASCII and of Unicode at once. -/
  | mixedClasses
deriving DecidableEq, Repr

end Scaffold.Pattern
