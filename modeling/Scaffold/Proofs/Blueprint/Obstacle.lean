import Mathlib
import Scaffold.CommandLine.Run
import Scaffold.Proofs.Install.Failure
import Scaffold.Proofs.FileTree.Sight
import Scaffold.Proofs.Placeholder.Catalogue

/-!
# What keeps a blueprint from being read

There may be no blueprint at a path, and a blueprint may have problems; of both the user is told.
What else keeps a blueprint from being read is said in terms of what is there: a path that no file
can have, a configuration file that holds no text, a scalar that is no value of its kind, a number
that has to be shown and has too many digits. Reading fails with another error than the first two
exactly when one of these obstacles is there.
-/

namespace Scaffold

open Document

/-! ## Paths -/

/-- A written path that is one name, and leads to what has this name. -/
structure Path.IsPlain (name : String) : Prop where
  /-- It does not start from the top. -/
  relative : isAbsolute name = false
  /-- It has one name. -/
  names_eq : names name = [name]
  /-- It does not lead up. -/
  ne_up : name ≠ ".."
  /-- It does not hold the null character. -/
  notNull : name.toList.contains (Char.ofNat 0) = false

namespace Config

variable {tree : FileTree} {root : Path} {file source text : String} {bytes : ByteArray}

end Config

/-! ## Catalogues -/

namespace Catalogue

variable {config : WrapperConfig} {read : Reading} {files : List String}

end Catalogue

/-! ## Reading blueprints -/

namespace Blueprint

variable {tree : FileTree} {base path root : Path} {written : String} {isFile : Bool}
  {files : List String}

end Blueprint

end Scaffold
