import Scaffold.FileTree.Path

/-!
# File trees

A file tree is a file, which holds bytes and may be executable, or a directory of named trees. The
operations look up a place, read and write files and make directories. Each says why it cannot be
done; writing never leaves a directory without the directories above it, because a tree has no other
places than those below directories.

Three things that can stand in the way elsewhere are not part of a tree: there are no links, nothing
is forbidden to anyone, and only the single names of a path are limited in length, not the whole.
What is said of reading and writing, and of when a command comes to its end, is said of such trees.
-/

namespace Scaffold

/-- A file or a directory. -/
inductive FileTree where
  /-- A file with its bytes. -/
  | file (bytes : ByteArray) (executable : Bool)
  /-- A directory with the trees in it by name. -/
  | directory (entries : List (String × FileTree))

/-- Why something cannot be done at a place of a file tree. -/
inductive FileFault where
  /-- There is nothing at the place. -/
  | missing
  /-- The way to the place leads through a file. -/
  | throughFile
  /-- The place is a directory. -/
  | isDirectory
  /-- The place is a file. -/
  | isFile
  /-- A name is longer than names can be. -/
  | nameTooLong
deriving DecidableEq, Repr

namespace FileTree

/-- The greatest length of a name, in bytes. -/
def nameLimit : Nat := 255

/-- A name longer than names can be. -/
def isTooLong (name : String) : Bool := nameLimit < name.utf8ByteSize

/-- An empty directory. -/
def empty : FileTree := directory []

/-- What stands at the end of a list of names. -/
def at? : FileTree → List String → Except FileFault FileTree
  | tree, [] => .ok tree
  | file _ _, _ :: _ => .error .throughFile
  | directory entries, name :: names =>
    if isTooLong name then .error .nameTooLong
    else
      match entries.lookup name with
      | some tree => tree.at? names
      | none => .error .missing

/-- What stands at a place. -/
def find? (tree : FileTree) (path : Path) : Except FileFault FileTree :=
  tree.at? path.parts

/-- Something stands at a place. A place that cannot be is an error only if its names are too long. -/
def occupied (tree : FileTree) (path : Path) : Except FileFault Bool :=
  match tree.find? path with
  | .ok _ => .ok true
  | .error .nameTooLong => .error .nameTooLong
  | .error _ => .ok false

/-- A directory stands at a place. -/
def hasDirectory (tree : FileTree) (path : Path) : Bool :=
  match tree.find? path with
  | .ok (directory _) => true
  | _ => false

/-- A file stands at a place. -/
def hasFile (tree : FileTree) (path : Path) : Bool :=
  match tree.find? path with
  | .ok (file _ _) => true
  | _ => false

/-- The file at a place. -/
def readFile (tree : FileTree) (path : Path) : Except FileFault (ByteArray × Bool) :=
  match tree.find? path with
  | .ok (file bytes executable) => .ok (bytes, executable)
  | .ok (directory _) => .error .isDirectory
  | .error fault => .error fault

/-- The entries with the tree of a name replaced, or added at the end. -/
def setEntry (name : String) (tree : FileTree) :
    List (String × FileTree) → List (String × FileTree)
  | [] => [(name, tree)]
  | (other, old) :: rest =>
    if other = name then (name, tree) :: rest else (other, old) :: setEntry name tree rest

/-- The tree with another tree at the end of a list of names, the directories on the way being made
as needed. A file on the way is replaced by a directory. -/
def put (new : FileTree) : List String → FileTree → FileTree
  | [], _ => new
  | name :: names, directory entries =>
    directory (setEntry name (put new names ((entries.lookup name).getD empty)) entries)
  | name :: names, file _ _ => directory [(name, put new names empty)]

/-- The tree without what stands at the end of a list of names. -/
def erase : List String → FileTree → FileTree
  | [], tree => tree
  | _ :: _, file bytes executable => file bytes executable
  | [name], directory entries => directory (entries.filter (·.1 != name))
  | name :: names, directory entries =>
    match entries.lookup name with
    | some tree => directory (setEntry name (erase names tree) entries)
    | none => directory entries

/-- The tree with a directory at the end of a list of names. The directories on the way are made from
the top, up to the first that cannot be; the names before it are `above`. -/
def makeDirectories (tree : FileTree) : (above names : List String) →
    FileTree × Except FileFault Unit
  | above, [] =>
    match tree.at? above with
    | .ok (directory _) => (tree, .ok ())
    | .ok (file _ _) => (tree, .error .isFile)
    | .error fault => (tree, .error fault)
  | above, name :: names =>
    match tree.at? (above ++ [name]) with
    | .error .missing => makeDirectories (put empty (above ++ [name]) tree) (above ++ [name]) names
    | .error fault => (tree, .error fault)
    | .ok _ => makeDirectories tree (above ++ [name]) names

/-- The tree with a file of the given bytes at a place, whose directory must be there. A file that is
there keeps its being executable. -/
def writeFile (tree : FileTree) (path : Path) (bytes : ByteArray) : Except FileFault FileTree :=
  match tree.find? path with
  | .ok (directory _) => .error .isDirectory
  | .ok (file _ executable) => .ok (put (file bytes executable) path.parts tree)
  | .error .missing =>
    match tree.find? path.parent with
    | .ok (directory _) => .ok (put (file bytes false) path.parts tree)
    | .ok (file _ _) => .error .throughFile
    | .error fault => .error fault
  | .error fault => .error fault

/-- The tree with the file at a place being executable or not. -/
def setExecutable (tree : FileTree) (path : Path) (executable : Bool) : FileTree :=
  match tree.find? path with
  | .ok (file bytes _) => put (file bytes executable) path.parts tree
  | _ => tree

/-- The place at which a written path ends, when each directory on the way must be there, before two
dots as well. -/
def locate (tree : FileTree) (parts : List String) : List String → Except FileFault (List String)
  | [] => do
    let _ ← tree.at? parts
    return parts
  | name :: names => do
    match ← tree.at? parts with
    | file _ _ => .error .throughFile
    | directory _ =>
      tree.locate (if name = ".." then parts.dropLast else parts ++ [name]) names

/-- The place at which a written path ends, relative paths starting from `base`. -/
def locate? (tree : FileTree) (base : Path) (text : String) : Except FileFault Path :=
  (tree.locate (if Path.isAbsolute text then [] else base.parts) (Path.names text)).map Path.mk

end FileTree

end Scaffold
