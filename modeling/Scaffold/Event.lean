import Scaffold.Placeholder.Catalogue
import Scaffold.Text.Quoted
import Scaffold.Transform.Eval

/-!
# What is reported

Everything that the library reports while it works, as data: what happened, how grave it is, which
part of the library reports it, and how it reads.
-/

namespace Scaffold

/-- How grave an event is. -/
inductive Level where
  | debug
  | info
  | warning
  | error
deriving DecidableEq, Repr

namespace Level

/-- The name of a level in a log. -/
def name : Level → String
  | debug => "DEBUG"
  | info => "INFO"
  | warning => "WARNING"
  | error => "ERROR"

/-- The rank of a level; graver levels rank higher. -/
def rank : Level → Nat
  | debug => 0
  | info => 1
  | warning => 2
  | error => 3

end Level

/-- A command of the program. -/
inductive CommandName where
  | install
  | summary
deriving DecidableEq, Repr

/-- An event. -/
inductive Event where
  /-- A transform is evaluated. -/
  | transform (note : TransformNote)
  /-- An answer was empty and no value is suggested. -/
  | askedAgain (name : String)
  /-- The user has abandoned a prompt. -/
  | promptAbandoned
  /-- A blueprint has a configuration file. -/
  | configFound (path : String)
  /-- The files of a blueprint below a directory are searched for placeholders. -/
  | catalogue (root : Path) (note : CatalogueNote)
  /-- A blueprint has been read. -/
  | blueprintRead (path : Path) (files : Nat) (names : List String)
  /-- A file that holds no text is copied as it is. -/
  | copiedBytes (source : Path)
  /-- A file that is there is left alone. -/
  | skipped (target : Path)
  /-- A file would be written if this were no rehearsal. -/
  | wouldWrite (target : Path)
  /-- A file is going to be written. -/
  | writing (target : Path)
  /-- A file could not be written after others have been. -/
  | writeFailed (target : Path) (written : List Path)
  /-- A blueprint is going to be read. -/
  | loading (path : String)
  /-- A blueprint is going to be installed. -/
  | installing (name : String)
  /-- A blueprint has been installed. -/
  | installed (written skipped : Nat)
  /-- A command has failed. -/
  | failed (command : CommandName) (message : String)
deriving Repr

namespace Event

/-- How grave an event is. The line that an abandoned prompt leaves unfinished has no level. -/
def level? : Event → Option Level
  | transform (.warning _) => some .warning
  | transform (.result _ _) => some .debug
  | askedAgain _ => some .debug
  | promptAbandoned => none
  | configFound _ => some .debug
  | catalogue _ _ => some .debug
  | blueprintRead _ _ _ => some .debug
  | copiedBytes _ => some .debug
  | skipped _ => some .warning
  | wouldWrite _ => some .info
  | writing _ => some .info
  | writeFailed _ _ => some .error
  | loading _ => some .info
  | installing _ => some .info
  | installed _ _ => some .info
  | failed _ _ => some .error

/-- The part of the program that reports an event. -/
def source : Event → String
  | transform (.warning _) => "skem.transforms.modifiers"
  | transform (.result _ _) => "skem.transforms.evaluator"
  | askedAgain _ => "skem.resolution.resolver"
  | promptAbandoned => ""
  | configFound _ => "skem.blueprint"
  | catalogue _ _ => "skem.variables.extractor"
  | blueprintRead _ _ _ => "skem.blueprint"
  | copiedBytes _ => "skem.installer"
  | skipped _ => "skem.installer"
  | wouldWrite _ => "skem.installer"
  | writing _ => "skem.installer"
  | writeFailed _ _ => "skem.installer"
  | loading _ => "skem.cli.commands.install"
  | installing _ => "skem.cli.commands.install"
  | installed _ _ => "skem.cli.commands.install"
  | failed .install _ => "skem.cli.commands.install"
  | failed .summary _ => "skem.cli.commands.variables"

/-- An event in words. The reason why a file cannot be read or written, which would follow after a
colon, is left out. -/
def message : Event → String
  | transform note => note.message
  | askedAgain name => s!"Empty value for '{name}', asking again"
  | promptAbandoned => ""
  | configFound path => s!"Using blueprint config {path}"
  | catalogue root (.unreadable file) =>
    s!"Skipping content scan of {Path.textOf root file}"
  | catalogue _ (.found file names) => s!"Variables in {file}: {Text.Quoted.list names}"
  | blueprintRead path files names =>
    s!"Blueprint {path.text}: {files} file(s), variables {Text.Quoted.list names}"
  | copiedBytes source => s!"Copying binary file unchanged: {source.text}"
  | skipped target => s!"File exists, skipping (use --force to overwrite): {target.text}"
  | wouldWrite target => s!"[DRY RUN] Would write {target.text}"
  | writing target => s!"Writing {target.text}"
  | writeFailed target written =>
    s!"Failed to write {target.text}. Partial install, already written: " ++
      Text.Quoted.list (written.map Path.text)
  | loading path => s!"Loading blueprint: {path}"
  | installing name => s!"Installing {name}"
  | installed written passed => s!"Installed {written} file(s), skipped {passed}"
  | failed _ message => message

end Event

end Scaffold
