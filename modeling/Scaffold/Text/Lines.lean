/-!
# Line breaks

Texts come with line breaks of several kinds: a line feed, a carriage return, or both together. Where
only the lines matter, each kind is read as a line feed.
-/

namespace Scaffold.Text

/-- The text with every line break written as a line feed. -/
def plainBreaks : List Char → List Char
  | [] => []
  | '\r' :: '\n' :: rest => '\n' :: plainBreaks rest
  | '\r' :: rest => '\n' :: plainBreaks rest
  | c :: rest => c :: plainBreaks rest

end Scaffold.Text
