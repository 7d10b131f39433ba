import Scaffold.Install.Write
import Scaffold.Resolution.Resolve

/-!
# Installing blueprints

A blueprint is installed in a directory in four steps: the files to be installed are selected, the
variables that they need are resolved, all of them are rendered, and then they are written. What fails
in one of the first three steps leaves all files as they are.
-/

namespace Scaffold

/-- What is asked of an installation. -/
structure InstallRequest where
  /-- The written path of the directory to install in. -/
  destination : String
  /-- The values that are supplied for variables. -/
  supplied : String → Option String
  /-- Only files with this text in their path are installed. -/
  pick : Option String
  /-- How files are written. -/
  mode : WriteMode

/-- Why an installation has failed. -/
inductive InstallFailure where
  /-- It is refused. -/
  | refused (error : InstallError)
  /-- A path holds the null character. -/
  | nullCharacter (error : NullCharacter)
  /-- The variables have no values. -/
  | resolution (error : ResolutionError)
  /-- A file cannot be rendered. -/
  | render (error : RenderError)
  /-- The file system refuses. -/
  | system (fault : FileFault)
deriving DecidableEq, Repr

/-- What an installation has done. -/
structure InstallResult where
  /-- The values of the variables. -/
  values : List (String × String)
  /-- The places that have been written. -/
  written : List Path
  /-- The places that have been left alone. -/
  skipped : List Path
deriving DecidableEq, Repr

/-- How an installation has ended. -/
structure InstallRun where
  /-- The files and directories. -/
  tree : FileTree
  /-- What has been asked and reported. -/
  conversation : Conversation
  /-- What has been done, or why it has failed. -/
  outcome : Except InstallFailure InstallResult

namespace Blueprint

/-- The place to install in, which must be no file. -/
def destinationOf (tree : FileTree) (base : Path) (written : String) :
    Except InstallFailure Path :=
  match Path.resolve base written with
  | .error e => .error (.nullCharacter e)
  | .ok place =>
    match tree.find? place with
    | .ok (.file _ _) => .error (.refused (.destinationIsFile place))
    | .error .nameTooLong => .error (.system .nameTooLong)
    | _ => .ok place

/-- Writes what has been rendered with the given values. -/
def writeRendered (mode : WriteMode) (values : List (String × String)) (tree : FileTree)
    (c : Conversation) (items : List RenderedFile) : InstallRun :=
  let (p, outcome) := (Progress.start tree).run mode items
  { tree := p.tree
    conversation := c.report p.events
    outcome := (outcome.map fun _ ↦ ⟨values, p.written, p.skipped⟩).mapError .system }

/-- Renders the selected files with the given values and writes them. -/
def installWith (b : Blueprint) (mode : WriteMode) (tree : FileTree) (destination : Path)
    (selected : List String) (c : Conversation) (values : List (String × String)) : InstallRun :=
  let rendered := b.render tree selected (fun name ↦ values.lookup name) destination
  let c := c.report rendered.trace
  match rendered.outcome with
  | .error e => ⟨tree, c, .error (.render e)⟩
  | .ok items => writeRendered mode values tree c items

/-- Installs a blueprint; relative paths start from `base`. -/
def install (b : Blueprint) (request : InstallRequest) (prompter : Prompter) (tree : FileTree)
    (base : Path) (c : Conversation) : InstallRun :=
  match destinationOf tree base request.destination with
  | .error e => ⟨tree, c, .error e⟩
  | .ok destination =>
    match b.select request.pick with
    | .error e => ⟨tree, c, .error (.refused e)⟩
    | .ok selected =>
      match (Resolution.resolve prompter b.catalogue request.supplied b.files selected
          b.config.table).run.run c with
      | (.error e, c) => ⟨tree, c, .error (.resolution e)⟩
      | (.ok values, c) => b.installWith request.mode tree destination selected c values

end Blueprint

end Scaffold
