import Scaffold.Text.Split

/-!
# Paths

A path names a place in a file tree by the names that lead to it from the top. Written paths are
divided by slashes; empty names and single dots mean nothing, and two dots undo the name before them.
A written path that does not begin with a slash starts from a base. No name holds the null character.
-/

namespace Scaffold

/-- A place in a file tree, as the names that lead to it. -/
structure Path where
  /-- The names, from the top. -/
  parts : List String
deriving DecidableEq, Repr

/-- A written path holds the null character. -/
inductive NullCharacter where
  | mk
deriving DecidableEq, Repr

/-- What is wrong with the path, in words. -/
def NullCharacter.message (_ : NullCharacter) : String := "embedded null byte"

namespace Path

/-- The written form, which begins with a slash. -/
def text (p : Path) : String :=
  "/" ++ String.intercalate "/" p.parts

/-- The place with the given name below this one. -/
def child (p : Path) (name : String) : Path := ⟨p.parts ++ [name]⟩

/-- The place above this one; the top is above itself. -/
def parent (p : Path) : Path := ⟨p.parts.dropLast⟩

/-- The last name, empty for the top. -/
def name (p : Path) : String := p.parts.getLastD ""

/-- The names of a written path, those that mean nothing left out. -/
def names (text : String) : List String :=
  ((Text.split ['/'] text.toList).map String.ofList).filter fun name ↦ name != "" && name != "."

/-- A written path starts from the top. -/
def isAbsolute (text : String) : Bool :=
  text.toList.head? == some '/'

/-- Where the names lead from a place, two dots going up. -/
def follow (parts : List String) (names : List String) : List String :=
  names.foldl (fun parts name ↦ if name = ".." then parts.dropLast else parts ++ [name]) parts

/-- The place that a written path leads to, relative paths starting from `base`. -/
def resolve (base : Path) (text : String) : Except NullCharacter Path :=
  if text.toList.contains (Char.ofNat 0) then .error .mk
  else .ok ⟨follow (if isAbsolute text then [] else base.parts) (names text)⟩

/-- This place is `p` or below it. -/
def isWithin (q p : Path) : Bool := p.parts.isPrefixOf q.parts

/-- A written path without the names that mean nothing. Two slashes at the beginning, and no more,
are kept. -/
def tidy (text : String) : String :=
  let front :=
    match text.toList with
    | '/' :: '/' :: '/' :: _ => "/"
    | '/' :: '/' :: _ => "//"
    | '/' :: _ => "/"
    | _ => ""
  let tidied := front ++ String.intercalate "/" (names text)
  if tidied.isEmpty then "." else tidied

/-- The written form of a written path that starts from this place. -/
def textOf (base : Path) (text : String) : String :=
  if isAbsolute text then tidy text else tidy (base.text ++ "/" ++ text)

end Path

end Scaffold
