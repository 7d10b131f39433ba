import Scaffold.Config.Load
import Scaffold.Placeholder.Catalogue

/-!
# Blueprints

A blueprint is a directory of files, or one file, with a configuration and the catalogue of the
variables in its files. It has the name that it is configured to have, or else that of its file or
directory.
-/

namespace Scaffold

/-- A blueprint that has been read. -/
structure Blueprint where
  /-- The directory of its files. -/
  root : Path
  /-- It is one file and not a directory. -/
  isFile : Bool
  /-- The written paths of its files below its directory. -/
  files : List String
  /-- Its configuration. -/
  config : Config
  /-- The variables in its files. -/
  catalogue : Catalogue

namespace Blueprint

/-- The name of a blueprint. -/
def name (b : Blueprint) : String :=
  match b.config.name.filter (!·.isEmpty) with
  | some name => name
  | none => if b.isFile then b.files.headD "" else b.root.name

/-- What a line of the summary says about how the value of a variable is found. -/
def definitionText (d : Definition) : String :=
  let transform := match d.transform? with
    | some text => " = " ++ text
    | none => ""
  let default := match d.default? with
    | some text => s!" [default: {text}]"
    | none => ""
  transform ++ default

/-- The line of the summary for a variable. -/
def variableLine (b : Blueprint) (name : String) : String :=
  let definition := match b.config.table.find? name with
    | some d => definitionText d
    | none => ""
  "        - " ++ name ++ definition

/-- The line of the summary for a file, by its number. -/
def fileLine (b : Blueprint) (index : Nat) (file : String) : String :=
  let names := b.catalogue.variablesOf index
  let suffix := if names.isEmpty then "" else " (" ++ String.intercalate ", " names ++ ")"
  "        - " ++ file ++ suffix

/-- The lines of the summary for the files. -/
def fileLines (b : Blueprint) : List String :=
  if b.isFile then ["    Single File"]
  else "    Files:" :: b.files.zipIdx.map fun (file, index) ↦ b.fileLine index file

/-- A summary of the files, the variables and the transforms of a blueprint. -/
def summary (b : Blueprint) : String :=
  String.intercalate "\n"
    (["    Name: " ++ b.name, "    Root: " ++ b.root.text, ""] ++ b.fileLines
      ++ ["", "    Variables:"] ++ b.catalogue.names.map b.variableLine)

end Blueprint

end Scaffold
