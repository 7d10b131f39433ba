import Scaffold.Text.Classes

/-!
# Quoted text

The form in which messages show a text so that every character of it can be told: between quotes,
with escapes for the quote, the backslash and all that does not print. Single quotes are used
unless the text holds a single quote and no double quote.
-/

namespace Scaffold.Text.Quoted

/-- The digits of `n` in base sixteen, padded with zeros to `width`. -/
def hex (width n : Nat) : List Char :=
  let digits := Nat.toDigits 16 n
  List.replicate (width - digits.length) '0' ++ digits

/-- The escape of a character that does not print, as short as its code point allows. -/
def escapeCode (c : Char) : List Char :=
  if c.toNat < 0x100 then '\\' :: 'x' :: hex 2 c.toNat
  else if c.toNat < 0x10000 then '\\' :: 'u' :: hex 4 c.toNat
  else '\\' :: 'U' :: hex 8 c.toNat

/-- One character between quotes of the kind `quote`. -/
def escapeChar (quote c : Char) : List Char :=
  if c = quote || c = '\\' then ['\\', c]
  else if c = '\n' then ['\\', 'n']
  else if c = '\r' then ['\\', 'r']
  else if c = '\t' then ['\\', 't']
  else if isPrintable c then [c]
  else escapeCode c

/-- The quote around a text. -/
def quoteFor (text : List Char) : Char :=
  if text.contains '\'' && !text.contains '"' then '"' else '\''

/-- The quoted form of a text. -/
def encode (text : List Char) : List Char :=
  let quote := quoteFor text
  quote :: text.flatMap (escapeChar quote) ++ [quote]

/-- The quoted form of a text. -/
def string (text : String) : String :=
  String.ofList (encode text.toList)

/-- A list of texts in brackets, each in quoted form. -/
def list (texts : List String) : String :=
  "[" ++ String.intercalate ", " (texts.map string) ++ "]"

end Scaffold.Text.Quoted
