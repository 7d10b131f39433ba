/-!
# Wrappers

A placeholder is a variable name between two delimiters. The delimiters are configured together, as
one text of even length whose halves they are. File names have one wrapper; contents may have a
wrapper of their own for each ending of the file name.
-/

namespace Scaffold

/-- The delimiters of a placeholder. -/
structure Wrapper where
  /-- What stands before the name. -/
  opening : String
  /-- What stands after the name. -/
  closing : String
deriving DecidableEq, Repr

/-- A text that cannot be split into two delimiters. -/
structure WrapperError where
  /-- The text. -/
  text : String
deriving DecidableEq, Repr

/-- What is wrong with the text, in words. -/
def WrapperError.message (e : WrapperError) : String :=
  s!"Wrapper '{e.text}' must be a non-empty string of even length"

namespace Wrapper

/-- The placeholder of a name. -/
def wrap (w : Wrapper) (name : String) : String :=
  w.opening ++ name ++ w.closing

/-- The two halves of a non-empty text of even length. -/
def split (text : String) : Except WrapperError Wrapper :=
  let chars := text.toList
  if chars.isEmpty || chars.length % 2 ≠ 0 then .error ⟨text⟩
  else
    let middle := chars.length / 2
    .ok ⟨String.ofList (chars.take middle), String.ofList (chars.drop middle)⟩

/-- The wrapper of a blueprint that configures none. -/
def standard : String := "______"

end Wrapper

/-- A wrapper for the contents of the files whose names have a given ending. -/
structure ExtensionWrapper where
  /-- The text of the wrapper. -/
  wrapper : String
  /-- The ending. -/
  extension : String
deriving DecidableEq, Repr

/-- The wrappers of a blueprint, as texts. -/
structure WrapperConfig where
  /-- The wrapper of file names. -/
  fileName : Option String
  /-- The wrapper of contents. -/
  content : Option String
  /-- Wrappers for the contents of certain files; the first that applies is used. -/
  extensions : List ExtensionWrapper
deriving DecidableEq, Repr

namespace WrapperConfig

/-- No wrappers of the blueprint's own. -/
def empty : WrapperConfig := ⟨none, none, []⟩

/-- `name` ends with `ending`, a line break at the very end of the name aside. -/
def endsWith (name ending : String) : Bool :=
  ending.toList.isSuffixOf name.toList
    || (name.toList.getLast? == some '\n' && ending.toList.isSuffixOf name.toList.dropLast)

/-- The configured text if it is there and not empty, else the standard one. -/
def orStandard : Option String → String
  | some text => if text.isEmpty then Wrapper.standard else text
  | none => Wrapper.standard

/-- The wrapper of file names. -/
def forNames (config : WrapperConfig) : Except WrapperError Wrapper :=
  Wrapper.split (orStandard config.fileName)

/-- The wrapper of the content of the file `name`. -/
def forContent (config : WrapperConfig) (name : String) : Except WrapperError Wrapper :=
  match config.extensions.find? fun override ↦ endsWith name override.extension with
  | some override => Wrapper.split override.wrapper
  | none => Wrapper.split (orStandard config.content)

end WrapperConfig

end Scaffold
