import Scaffold.Bindings
import Scaffold.Document.Read
import Scaffold.FileTree.Text
import Scaffold.Text.Encoding

/-!
# Supplied values

The values of variables can be supplied by a file that holds a mapping, and one by one. What is supplied
one by one wins over what the file says. The values of the file may be of any type and are taken as they
are shown.
-/

namespace Scaffold.CommandLine

open Document

/-- Why values cannot be supplied. -/
inductive SupplyError where
  /-- There is no such file. -/
  | missing (file : String)
  /-- The file system refuses. -/
  | system (fault : FileFault)
  /-- The file holds no text. -/
  | notText (fault : Text.EncodingFault)
  /-- The file holds no document. -/
  | document (fault : ReadFault)
  /-- The file holds no mapping. -/
  | notMapping (type : String)
  /-- A number in the file has more digits than are written. -/
  | unwritable
  /-- There is no equals sign between a variable and its value. -/
  | noValue (item : String)
  /-- There is no variable before the equals sign. -/
  | noName (item : String)
deriving DecidableEq, Repr

/-- Values of variables. -/
abbrev Supply := Bindings String

namespace Supply

/-- The levels of a document that values are taken from: its entries. -/
def levels : Nat := 1

/-- The values that the document of a file says. -/
def ofText (text : String) : Except SupplyError Supply :=
  match Value.ofDocument levels text with
  | .error fault => .error (.document fault)
  | .ok (.mapping entries) =>
    if entries.any fun (key, value) ↦ key.isUnwritable || value.isUnwritable then .error .unwritable
    else .ok (Bindings.ofList (entries.map fun (key, value) ↦ (key.shown, value.shown)))
  | .ok v => .error (.notMapping v.typeName)

/-- The values that a file says, its path being relative to `base`. -/
def ofFile (tree : FileTree) (base : Path) (file : String) : Except SupplyError Supply :=
  if file.toList.contains (Char.ofNat 0) then .error (.missing (Path.tidy file))
  else
    match (tree.locate? base file).bind tree.find? with
    | .error .nameTooLong => .error (.system .nameTooLong)
    | .error _ => .error (.missing (Path.tidy file))
    | .ok (.directory _) => .error (.system .isDirectory)
    | .ok (.file bytes _) =>
      match String.fromUTF8? bytes with
      | none => .error (.notText (.ofBytes bytes))
      | some text => ofText (FileTree.plainLines text)

/-- A variable and its value, divided by the first equals sign. -/
def item (text : String) : Except SupplyError (String × String) :=
  let name := text.toList.takeWhile (· != '=')
  match text.toList.dropWhile (· != '=') with
  | [] => .error (.noValue text)
  | _ :: value =>
    if name.isEmpty then .error (.noName text)
    else .ok (String.ofList name, String.ofList value)

/-- The values that a file and some items supply. -/
def read (tree : FileTree) (base : Path) (file : Option String) (items : List String) :
    Except SupplyError Supply := do
  let fromFile ← match file.filter (!·.isEmpty) with
    | none => pure .empty
    | some file => ofFile tree base file
  let pairs ← items.mapM item
  return pairs.foldl (fun values (name, value) ↦ values.insert name value) fromFile

end Supply

end Scaffold.CommandLine
