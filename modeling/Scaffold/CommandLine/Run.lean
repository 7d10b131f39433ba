import Scaffold.CommandLine.Command
import Scaffold.CommandLine.Ending

/-!
# Running commands

A command is run on the files and directories, with what there is to read from the user. It leaves the
files and directories as they are then, what it has printed and reported, and its exit code.

The command that installs ends with an exit code whatever happens. The command that prints does so only
after problems of the blueprint and when there is no blueprint; other failures are left as they are.
-/

namespace Scaffold

/-- What is wrong with a blueprint that cannot be read, if that is the reason. -/
def BlueprintError.problems? : BlueprintError → Option (List Problem)
  | .config (.config (.invalid problems)) => some problems
  | .catalogue (.badPlaceholders ps) => some (ps.map .ofPlaceholder)
  | _ => none

namespace CommandLine

/-- How a command has ended. -/
structure Run where
  /-- The files and directories. -/
  tree : FileTree
  /-- What has been asked and reported. -/
  conversation : Conversation
  /-- What has been printed besides questions. -/
  printed : String
  /-- The exit code, or why there is none. -/
  exit : Except BlueprintError Nat

namespace Run

/-- Everything that has been printed. -/
def output (r : Run) : String :=
  String.join (r.conversation.prompts.map Prompt.text) ++ r.printed

/-- An event in the log. An unfinished line is ended whatever is reported. -/
def logLine? (least : Level) (e : Event) : Option String :=
  match e.level? with
  | none => some ""
  | some level =>
    if least.rank ≤ level.rank then some s!"{e.source} - {level.name} - {e.message}" else none

/-- The entries of the log from a level on. -/
def log (r : Run) (least : Level) : List String :=
  r.conversation.events.filterMap (logLine? least)

end Run

/-- The replies of a user whose input is given: its lines. -/
def repliesOf (input : String) : List Reply :=
  let lines := (Text.split ['\n'] input.toList).map String.ofList
  (if lines.getLast? = some "" then lines.dropLast else lines).map .answer

/-- A command that has failed. -/
def fail (name : CommandName) (tree : FileTree) (c : Conversation) (e : Ending) : Run :=
  ⟨tree, c.report [.failed name e.message], "", .ok e.code⟩

/-- A command for which the blueprint has problems. -/
def failWith (name : CommandName) (tree : FileTree) (c : Conversation) (problems : List Problem) :
    Run :=
  ⟨tree, c.report (problems.map fun p ↦ .failed name p.line), "", .ok 2⟩

/-- Installs a blueprint that has been read. -/
def installBlueprint (command : Command) (supply : Supply) (tree : FileTree) (base : Path)
    (c : Conversation) (b : Blueprint) : Run :=
  let request : InstallRequest :=
    { destination := (command.last? .destination).getD "."
      supplied := supply.get?
      pick := command.last? .pick
      mode := ⟨command.has .force, command.has .rehearsal⟩ }
  let prompter : Prompter := if command.has .noInput then .nobody else .person
  let run := b.install request prompter tree base (c.report [.installing b.name])
  match run.outcome with
  | .error e => fail .install run.tree run.conversation (.ofInstall e)
  | .ok r =>
    ⟨run.tree, run.conversation.report [.installed r.written.length r.skipped.length], "", .ok 0⟩

/-- Runs the command that installs. -/
def runInstall (command : Command) (tree : FileTree) (base : Path) (c : Conversation) : Run :=
  match Supply.read tree base (command.last? .valuesFile) (command.all .value) with
  | .error e => fail .install tree c (.ofSupply e)
  | .ok supply =>
    let loaded := Blueprint.load tree base command.blueprint
    let c := c.report (.loading (Path.tidy command.blueprint) :: loaded.trace)
    match loaded.outcome with
    | .ok b => installBlueprint command supply tree base c b
    | .error e =>
      match e.problems? with
      | some problems => failWith .install tree c problems
      | none => fail .install tree c (.ofBlueprint e)

/-- Runs the command that prints. -/
def runSummary (command : Command) (tree : FileTree) (base : Path) (c : Conversation) : Run :=
  let loaded := Blueprint.load tree base command.blueprint
  let c := c.report loaded.trace
  match loaded.outcome with
  | .ok b => ⟨tree, c, b.summary ++ "\n", .ok 0⟩
  | .error e =>
    match e.problems?, e with
    | some problems, _ => failWith .summary tree c problems
    | none, .missing _ => fail .summary tree c (.ofBlueprint e)
    | none, _ => ⟨tree, c, "", .error e⟩

/-- Runs a command; relative paths start from `base`. -/
def run (command : Command) (tree : FileTree) (base : Path) (replies : List Reply) : Run :=
  match command.name with
  | .install => runInstall command tree base (.start replies)
  | .summary => runSummary command tree base (.start replies)

end CommandLine

end Scaffold
