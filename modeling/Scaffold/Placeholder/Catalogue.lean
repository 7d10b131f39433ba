import Scaffold.Placeholder.Name
import Scaffold.Placeholder.Scan
import Scaffold.Traced
import Scaffold.FileTree.Path

/-!
# The catalogue of a blueprint's variables

The variables of a blueprint are the names of the placeholders in the contents and the paths of its
files. The catalogue lists them all, and for each file those that it uses, every name once and in the
order in which it first appears. All the placeholders with a bad name are reported together.
-/

namespace Scaffold

/-- The variables of a blueprint. -/
structure Catalogue where
  /-- The variables of all files. -/
  names : List String
  /-- The variables of the files that have any, with the number of the file. -/
  fileVariables : List (Nat × List String)
deriving DecidableEq, Repr

/-- A placeholder whose name is no variable name. -/
structure BadPlaceholder where
  /-- The file that holds it. -/
  file : String
  /-- The name. -/
  name : String
  /-- What is wrong with the name. -/
  fault : NameFault
deriving DecidableEq, Repr

/-- What is noted while a catalogue is made. -/
inductive CatalogueNote where
  /-- The content of a file is no text. -/
  | unreadable (file : String)
  /-- The variables of a file. -/
  | found (file : String) (names : List String)
deriving DecidableEq, Repr

/-- Why there is no catalogue. -/
inductive CatalogueError where
  /-- A wrapper has no halves. -/
  | wrapper (error : WrapperError)
  /-- A path holds the null character. -/
  | nullCharacter (error : NullCharacter)
  /-- Placeholders have bad names. -/
  | badPlaceholders (placeholders : List BadPlaceholder)
deriving DecidableEq, Repr

namespace Catalogue

/-- No variables. -/
def empty : Catalogue := ⟨[], []⟩

/-- The variables of a file, by its number. -/
def variablesOf (c : Catalogue) (index : Nat) : List String :=
  (c.fileVariables.lookup index).getD []

/-- The names that are variable names, each once. -/
def validNames (names : List String) : List String :=
  (names.filter fun name ↦ (VariableName.fault? name).isNone).eraseDups

/-- The names that are no variable names, with repetitions. -/
def badNames (file : String) (names : List String) : List BadPlaceholder :=
  names.filterMap fun name ↦ (VariableName.fault? name).map fun fault ↦ ⟨file, name, fault⟩

/-- The catalogue of files with the given names in them. -/
def ofNames (names : List (List String)) : Catalogue where
  names := (names.flatMap validNames).eraseDups
  fileVariables :=
    (names.zipIdx.map fun (names, index) ↦ (index, validNames names)).filter fun (_, names) ↦
      !names.isEmpty

/-- How a file is read: its text, or none if it holds no text. -/
abbrev Reading := String → Except NullCharacter (Option String)

/-- The names of the placeholders in the content and the path of a file. -/
def namesIn (config : WrapperConfig) (nameWrapper : Wrapper) (read : Reading) (file : String) :
    Traced CatalogueNote CatalogueError (List String) :=
  match config.forContent file, read file with
  | .error e, _ => .fail (.wrapper e)
  | .ok _, .error e => .fail (.nullCharacter e)
  | .ok wrapper, .ok text =>
    let names := Placeholder.names wrapper (text.getD "") ++ Placeholder.names nameWrapper file
    let valid := validNames names
    ⟨(if text.isNone then [.unreadable file] else [])
        ++ (if valid.isEmpty then [] else [.found file valid]),
      .ok names⟩

/-- The names of the placeholders in each file. -/
def namesInAll (config : WrapperConfig) (nameWrapper : Wrapper) (read : Reading) :
    List String → Traced CatalogueNote CatalogueError (List (List String))
  | [] => .ok []
  | file :: files =>
    (namesIn config nameWrapper read file).andThen fun names ↦
      (namesInAll config nameWrapper read files).andThen fun rest ↦ .ok (names :: rest)

/-- The catalogue of files, given how they are read. -/
def extract (config : WrapperConfig) (read : Reading) (files : List String) :
    Traced CatalogueNote CatalogueError Catalogue :=
  match config.forNames with
  | .error e => .fail (.wrapper e)
  | .ok nameWrapper =>
    (namesInAll config nameWrapper read files).andThen fun names ↦
      match (files.zip names).flatMap fun (file, names) ↦ badNames file names with
      | [] => .ok (ofNames names)
      | bad => .fail (.badPlaceholders bad)

end Catalogue

end Scaffold
