import Scaffold.Blueprint.Basic
import Scaffold.Config.File
import Scaffold.Event
import Scaffold.FileTree.Listing

/-!
# Reading blueprints

A blueprint is read from a path: its files are listed, its configuration is loaded and the variables
in its files are catalogued. Configuration files are no files of the blueprint, and what is in the
directories of version control and of installed packages is left out. A single file is a blueprint of
its own, configured by its directory.
-/

namespace Scaffold

/-- Why a blueprint cannot be read. -/
inductive BlueprintError where
  /-- There is nothing at the path. -/
  | missing (path : Path)
  /-- The file system refuses. -/
  | system (fault : FileFault)
  /-- The path holds the null character. -/
  | nullCharacter (error : NullCharacter)
  /-- There is no configuration. -/
  | config (error : LoadError)
  /-- There is no catalogue. -/
  | catalogue (error : CatalogueError)
deriving DecidableEq, Repr

namespace Blueprint

/-- The directories whose files are left out. -/
def ignoredDirectories : List String := [".git", ".hg", ".svn", "node_modules"]

/-- The names lead to a configuration file of the blueprint. -/
def isConfigFile (names : List String) : Bool :=
  match names with
  | [name] => Config.fileNames.contains name
  | _ => false

/-- The written paths of the files of a blueprint, sorted. -/
def filesIn (tree : FileTree) : List String :=
  let found := (tree.files ignoredDirectories.contains).filter (!isConfigFile ·)
  (found.map (String.intercalate "/")).mergeSort fun a b ↦ decide (a ≤ b)

/-- The written paths of the files below a directory; none if there is no directory. -/
def listFiles (tree : FileTree) (directory : Path) : List String :=
  match tree.find? directory with
  | .ok found => filesIn found
  | .error _ => []

/-- The configuration of the blueprints in a directory. -/
def configIn (tree : FileTree) (root : Path) : Traced Event BlueprintError Config :=
  match Config.find? tree root with
  | none => .ok .empty
  | some file =>
    ⟨[.configFound (root.child file).text], (Config.ofFile tree root file).mapError .config⟩

/-- The blueprint with the given files, which is at `path`. -/
def ofFiles (tree : FileTree) (path root : Path) (isFile : Bool) (files : List String) :
    Traced Event BlueprintError Blueprint := do
  let config ← configIn tree root
  let catalogue ← (Catalogue.extract config.wrappers (tree.readText root) files).mapNotes
    (.catalogue root) .catalogue
  Traced.note (.blueprintRead path files.length catalogue.names)
  return ⟨root, isFile, files, config, catalogue⟩

/-- The blueprint at the end of a written path, relative paths starting from `base`. -/
def load (tree : FileTree) (base : Path) (written : String) :
    Traced Event BlueprintError Blueprint :=
  match Path.resolve base written with
  | .error e => .fail (.nullCharacter e)
  | .ok path =>
    match tree.find? path with
    | .error .nameTooLong => .fail (.system .nameTooLong)
    | .error _ => .fail (.missing path)
    | .ok (.file _ _) => ofFiles tree path path.parent true [path.name]
    | .ok (.directory _) => ofFiles tree path path false (listFiles tree path)

end Blueprint

end Scaffold
