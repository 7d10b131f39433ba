import Scaffold.Config.Load
import Scaffold.Document.Read
import Scaffold.FileTree.Text
import Scaffold.Text.Encoding

/-!
# Configuration files

A blueprint is configured by a document in its directory. A file that cannot be read or holds no
document is a problem of the blueprint like any other; an empty document says nothing. Only a file
that is no text, and a document with a scalar that is no value of its kind, are errors of their own.
-/

namespace Scaffold

open Document

/-- Why a configuration file gives no configuration. -/
inductive LoadError where
  /-- The configuration is wrong. -/
  | config (error : ConfigError)
  /-- The path holds the null character. -/
  | nullCharacter (error : NullCharacter)
  /-- The file holds no text. -/
  | notText (fault : Text.EncodingFault)
  /-- A scalar is no value of its kind. -/
  | scalar (fault : ReadFault)
deriving DecidableEq, Repr

namespace Config

/-- The names of configuration files, the one that is preferred first. -/
def fileNames : List String := ["skem.config.json", "skem.config.yaml", "skem.config.yml"]

/-- The levels of a document that a configuration is made from: the fields, the entries of tables and
lists, and the fields of these. -/
def levels : Nat := 3

/-- The error of a file that cannot be read. -/
def unreadable (source : String) : LoadError := .config (.invalid [⟨.unreadable, source⟩])

/-- The configuration that a text says. -/
def ofText (source text : String) : Except LoadError Config :=
  match Value.ofDocument levels text with
  | .error .malformed => .error (unreadable source)
  | .error fault => .error (.scalar fault)
  | .ok .null => (ofValue (some source) (.mapping [])).mapError .config
  | .ok v => (ofValue (some source) v).mapError .config

/-- The configuration in the file at the end of a written path, relative paths starting from
`base`. -/
def ofFile (tree : FileTree) (base : Path) (file : String) : Except LoadError Config :=
  let source := Path.textOf base file
  if file.toList.contains (Char.ofNat 0) then .error (.nullCharacter .mk)
  else
    match tree.readBytes base file with
    | .error _ => .error (unreadable source)
    | .ok (bytes, _) =>
      match String.fromUTF8? bytes with
      | none => .error (.notText (.ofBytes bytes))
      | some text => ofText source (FileTree.plainLines text)

/-- The configuration file of a directory, if it has one. -/
def find? (tree : FileTree) (directory : Path) : Option String :=
  fileNames.find? fun name ↦ tree.hasFile (directory.child name)

end Config

end Scaffold
