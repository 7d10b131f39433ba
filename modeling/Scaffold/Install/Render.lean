import Scaffold.Blueprint.Basic
import Scaffold.Event
import Scaffold.FileTree.Basic
import Scaffold.Placeholder.Substitute

/-!
# Rendering files

Every selected file of a blueprint is rendered before anything is written: the placeholders in its path
and in its text are filled in, and the path must not lead out of the destination. A file that holds no
text is copied as it is.
-/

namespace Scaffold

/-- Why an installation is refused. -/
inductive InstallError where
  /-- The destination is a file. -/
  | destinationIsFile (destination : Path)
  /-- No file has the filter in its path. -/
  | nothingPicked (filter : String)
  /-- A rendered path leads out of the destination. -/
  | outside (name : String) (destination : Path)
deriving DecidableEq, Repr

/-- Why an installation is refused, in words. -/
def InstallError.message : InstallError → String
  | destinationIsFile destination => s!"Destination is not a directory: {destination.text}"
  | nothingPicked filter =>
    s!"No files could be picked with filter '{filter}'. Please try with another filter."
  | outside name destination =>
    s!"Path safety violation: '{name}' resolves outside {destination.text}"

/-- Why a file cannot be rendered. -/
inductive RenderError where
  /-- The rendered path is refused. -/
  | refused (error : InstallError)
  /-- A wrapper has no halves. -/
  | wrapper (error : WrapperError)
  /-- Variables have no values. -/
  | undefinedVariables (error : UndefinedVariables)
  /-- The rendered path holds the null character. -/
  | nullCharacter (error : NullCharacter)
  /-- The file cannot be read. -/
  | system (fault : FileFault)
deriving DecidableEq, Repr

/-- What is to be written. -/
inductive RenderedContent where
  /-- A text. -/
  | text (text : String)
  /-- The bytes of a file that holds no text. -/
  | bytes (bytes : ByteArray)

/-- The bytes that are to be written. -/
def RenderedContent.toBytes : RenderedContent → ByteArray
  | text s => s.toUTF8
  | bytes bs => bs

/-- A file that is to be written. -/
structure RenderedFile where
  /-- The place that it is rendered from. -/
  source : Path
  /-- The place that it is to be written to. -/
  target : Path
  /-- What is to be written. -/
  content : RenderedContent

namespace Blueprint

/-- The files whose written path has the filter in it; all files, if there is no filter or it is
empty. -/
def select (b : Blueprint) (pick : Option String) : Except InstallError (List String) :=
  match pick.filter (!·.isEmpty) with
  | none => .ok b.files
  | some filter =>
    match b.files.filter fun file ↦ Text.occursIn filter.toList file.toList with
    | [] => .error (.nothingPicked filter)
    | files => .ok files

/-- The place that a rendered path leads to. It must be the destination or below it. -/
def target (destination : Path) (name : String) : Except RenderError Path :=
  match Path.resolve ⟨Path.follow [] destination.parts⟩ name with
  | .error e => .error (.nullCharacter e)
  | .ok place =>
    if place.isWithin destination then .ok place else .error (.refused (.outside name destination))

/-- The content of a file after rendering. -/
def renderContent (b : Blueprint) (values : String → Option String) (names : List String)
    (file : String) (bytes : ByteArray) : Traced Event RenderError RenderedContent :=
  match String.fromUTF8? bytes with
  | none => ⟨[.copiedBytes ⟨b.root.parts ++ Path.names file⟩], .ok (.bytes bytes)⟩
  | some text =>
    match b.config.wrappers.forContent file with
    | .error e => .fail (.wrapper e)
    | .ok wrapper =>
      match Placeholder.fill wrapper values names text with
      | .error e => .fail (.undefinedVariables e)
      | .ok filled => .ok (.text filled)

/-- A file after rendering, given its variables. -/
def renderFile (b : Blueprint) (tree : FileTree) (values : String → Option String)
    (destination : Path) (nameWrapper : Wrapper) (file : String) (names : List String) :
    Traced Event RenderError RenderedFile :=
  match Placeholder.fill nameWrapper values names file with
  | .error e => .fail (.undefinedVariables e)
  | .ok name =>
    match target destination name with
    | .error e => .fail e
    | .ok place =>
      let source : Path := ⟨b.root.parts ++ Path.names file⟩
      match tree.readFile source with
      | .error fault => .fail (.system fault)
      | .ok (bytes, _) => do
        let content ← b.renderContent values names file bytes
        return ⟨source, place, content⟩

/-- Some files after rendering, each with its variables. -/
def renderAll (b : Blueprint) (tree : FileTree) (values : String → Option String)
    (destination : Path) (nameWrapper : Wrapper) :
    List (String × List String) → Traced Event RenderError (List RenderedFile)
  | [] => .ok []
  | (file, names) :: rest => do
    let item ← b.renderFile tree values destination nameWrapper file names
    return item :: (← b.renderAll tree values destination nameWrapper rest)

/-- The selected files with their variables, in the order of the blueprint. -/
def selection (b : Blueprint) (selected : List String) : List (String × List String) :=
  (b.files.zipIdx.filter fun (file, _) ↦ selected.contains file).map fun (file, index) ↦
    (file, b.catalogue.variablesOf index)

/-- The selected files after rendering. -/
def render (b : Blueprint) (tree : FileTree) (selected : List String)
    (values : String → Option String) (destination : Path) :
    Traced Event RenderError (List RenderedFile) :=
  match b.config.wrappers.forNames with
  | .error e => .fail (.wrapper e)
  | .ok nameWrapper => b.renderAll tree values destination nameWrapper (b.selection selected)

end Blueprint

end Scaffold
