import Scaffold.Install.Render

/-!
# Writing rendered files

The rendered files are written one after the other. A file that is there already is left alone, unless
overwriting is asked for. In a rehearsal nothing is written, but it is reported what would be. When a
file cannot be written, what has been written before stays, and is reported.
-/

namespace Scaffold

/-- How files are written. -/
structure WriteMode where
  /-- Files that are there are overwritten. -/
  force : Bool
  /-- Nothing is written. -/
  rehearsal : Bool
deriving DecidableEq, Repr

/-- How far the writing has come. -/
structure Progress where
  /-- The files and directories. -/
  tree : FileTree
  /-- The places that have been written. -/
  written : List Path
  /-- The places that have been left alone. -/
  skipped : List Path
  /-- What has been reported. -/
  events : List Event

namespace Progress

/-- Nothing has been written yet. -/
def start (tree : FileTree) : Progress := ⟨tree, [], [], []⟩

/-- The tree with a rendered file written, its directory made if needed, and executable just as its
source. If it cannot be done, the tree is left as it is by then. -/
def writeItem (tree : FileTree) (item : RenderedFile) : FileTree × Except FileFault Unit :=
  match tree.makeDirectories [] item.target.parent.parts with
  | (tree, .error fault) => (tree, .error fault)
  | (tree, .ok ()) =>
    match tree.writeFile item.target item.content.toBytes with
    | .error fault => (tree, .error fault)
    | .ok tree =>
      match tree.readFile item.source with
      | .error fault => (tree, .error fault)
      | .ok (_, executable) => (tree.setExecutable item.target executable, .ok ())

/-- The next rendered file is written, or left alone. -/
def step (mode : WriteMode) (p : Progress) (item : RenderedFile) : Progress × Except FileFault Unit :=
  match p.tree.occupied item.target with
  | .error fault => (p, .error fault)
  | .ok there =>
    if there && !mode.force then
      ({ p with
          skipped := p.skipped ++ [item.target]
          events := p.events ++ [.skipped item.target] }, .ok ())
    else if mode.rehearsal then
      ({ p with
          written := p.written ++ [item.target]
          events := p.events ++ [.wouldWrite item.target] }, .ok ())
    else
      match writeItem p.tree item with
      | (tree, .ok ()) =>
        ({ p with
            tree := tree
            written := p.written ++ [item.target]
            events := p.events ++ [.writing item.target] }, .ok ())
      | (tree, .error fault) =>
        ({ p with
            tree := tree
            events := p.events ++ [.writing item.target, .writeFailed item.target p.written] },
          .error fault)

/-- The rendered files are written one after the other, up to the first that cannot be. -/
def run (mode : WriteMode) : Progress → List RenderedFile → Progress × Except FileFault Unit
  | p, [] => (p, .ok ())
  | p, item :: rest =>
    match p.step mode item with
    | (p, .ok ()) => run mode p rest
    | (p, .error fault) => (p, .error fault)

end Progress

end Scaffold
