import Scaffold.FileTree.Basic

/-!
# Listing file trees

The files and directories of a tree with the names that lead to them, and what one tree has that
another has not. Listings are sorted by the written form of the paths, compared character by
character, the slash counting like any other.
-/

namespace Scaffold

namespace FileTree

/-- The files of the trees in a directory whose way does not lead through a directory that is
skipped, as the names that lead to them. -/
def filesOf (skip : String → Bool) : List (String × FileTree) → List (List String)
  | [] => []
  | (name, file _ _) :: rest => [name] :: filesOf skip rest
  | (name, directory entries) :: rest =>
    (if skip name then [] else (filesOf skip entries).map (name :: ·)) ++ filesOf skip rest

/-- The files below the top of a tree. -/
def files (skip : String → Bool) : FileTree → List (List String)
  | file _ _ => []
  | directory entries => filesOf skip entries

/-- A file or directory in a listing. -/
structure Row where
  /-- The path from the top of the tree; that of a directory ends with a slash. -/
  path : String
  /-- The bytes of a file and its being executable; none for a directory. -/
  content : Option (ByteArray × Bool)

/-- The files and directories in a directory whose own path is `above`. -/
def rowsOf (above : String) : List (String × FileTree) → List Row
  | [] => []
  | (name, file bytes executable) :: rest =>
    ⟨above ++ name, some (bytes, executable)⟩ :: rowsOf above rest
  | (name, directory entries) :: rest =>
    ⟨above ++ name ++ "/", none⟩ :: rowsOf (above ++ name ++ "/") entries ++ rowsOf above rest

/-- The files and directories below the top of a tree. -/
def rows : FileTree → List Row
  | file _ _ => []
  | directory entries => rowsOf "" entries

/-- A change from one tree to another. -/
inductive Change where
  /-- A new directory, or a file that is new or differs. -/
  | present (row : Row)
  /-- A file or directory that is gone. -/
  | removed (path : String)

/-- Where a change happened. -/
def Change.path : Change → String
  | present row => row.path
  | removed path => path

/-- The rows agree in everything. -/
def Row.same (a b : Row) : Bool :=
  a.path == b.path &&
    match a.content, b.content with
    | some (x, p), some (y, q) => x == y && p == q
    | none, none => true
    | _, _ => false

/-- What changed from one tree to another, sorted by path. -/
def changes (old new : FileTree) : List Change :=
  let before := old.rows
  let after := new.rows
  let present := (after.filter fun row ↦ !before.any (·.same row)).map Change.present
  let removed := (before.filter fun row ↦ !after.any (·.path == row.path)).map (Change.removed ·.path)
  (present ++ removed).mergeSort fun a b ↦ decide (a.path ≤ b.path)

end FileTree

end Scaffold
