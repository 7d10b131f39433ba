import Scaffold.FileTree.Basic
import Scaffold.Text.Lines

/-!
# Text files

A file holds a text when its bytes are the UTF-8 form of one. A text can be read as it is, or with all
its line breaks alike.
-/

namespace Scaffold.FileTree

/-- The text with all line breaks alike. -/
def plainLines (text : String) : String :=
  String.ofList (Text.plainBreaks text.toList)

/-- The bytes of the file at the end of a written path, relative paths starting from `base`. -/
def readBytes (tree : FileTree) (base : Path) (file : String) : Except FileFault (ByteArray × Bool) :=
  (tree.locate? base file).bind tree.readFile

/-- The text of the file at the end of a written path, with all line breaks alike; none if there is
no file or it holds no text. -/
def readText (tree : FileTree) (base : Path) (file : String) :
    Except NullCharacter (Option String) :=
  if file.toList.contains (Char.ofNat 0) then .error .mk
  else
    match tree.readBytes base file with
    | .ok (bytes, _) => .ok ((String.fromUTF8? bytes).map plainLines)
    | .error _ => .ok none

end Scaffold.FileTree
