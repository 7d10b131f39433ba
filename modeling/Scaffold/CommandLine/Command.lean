import Scaffold.CommandLine.Option
import Scaffold.Event

/-!
# Commands

The program has two commands: one installs a blueprint, the other prints a summary of it. A command may
be called by several names. What its options say is gathered here; of an option that sets a single value
the last one counts.
-/

namespace Scaffold.CommandLine

/-- What an option sets. -/
inductive Setting where
  /-- Help is asked for. -/
  | help
  /-- The directory to install in. -/
  | destination
  /-- The value of a variable. -/
  | value
  /-- The file with values of variables. -/
  | valuesFile
  /-- The filter for files. -/
  | pick
  /-- Files that are there are overwritten. -/
  | force
  /-- Nothing is written. -/
  | rehearsal
  /-- Nobody is asked. -/
  | noInput
  /-- Everything is reported. -/
  | debug
  /-- Only errors are reported. -/
  | quiet
  /-- Everything is reported, unless only errors are. -/
  | verbose
  /-- What is reported. -/
  | level
deriving DecidableEq, Repr

/-- An option that takes no value. -/
def switch (sets : Setting) (names : List String) : OptionRule Setting := ⟨names, sets, false, []⟩

/-- An option that takes a value. -/
def valued (sets : Setting) (names : List String) : OptionRule Setting := ⟨names, sets, true, []⟩

/-- The names of levels on the command line. -/
def levelNames : List (String × Level) :=
  [("debug", .debug), ("info", .info), ("warn", .warning), ("error", .error)]

/-- The option for help. -/
def helpRule : OptionRule Setting := switch .help ["-h", "--help"]

/-- The options for what is reported. -/
def reportRules : List (OptionRule Setting) :=
  [switch .debug ["--debug"], switch .quiet ["--quiet"], switch .verbose ["--verbose"],
    ⟨["--log-level"], .level, true, levelNames.map Prod.fst⟩]

/-- The options of the command that installs. -/
def installRules : List (OptionRule Setting) :=
  [helpRule, valued .destination ["-d", "--dest"], valued .value ["-v", "--variable"],
    valued .valuesFile ["--variables-file"], valued .pick ["--pick"],
    switch .force ["-f", "--force"], switch .rehearsal ["--dry-run"],
    switch .noInput ["--no-input"]] ++ reportRules

/-- The options of the command that prints. -/
def summaryRules : List (OptionRule Setting) := helpRule :: reportRules

/-- The options of a command. -/
def rulesOf : CommandName → List (OptionRule Setting)
  | .install => installRules
  | .summary => summaryRules

/-- The names by which the commands are called. -/
def commandNames : List (String × CommandName) :=
  [("install", .install), ("i", .install), ("generate", .install), ("g", .install),
    ("variables", .summary), ("print", .summary), ("p", .summary)]

/-- A command with what its options say. -/
structure Command where
  /-- The command. -/
  name : CommandName
  /-- The written path of the blueprint. -/
  blueprint : String
  /-- The options that are given, in order. -/
  given : List (Given Setting)

namespace Command

/-- An option is given. -/
def has (c : Command) (s : Setting) : Bool := c.given.any (·.sets == s)

/-- The values that are given for a setting. -/
def all (c : Command) (s : Setting) : List String :=
  c.given.filterMap fun g ↦ if g.sets = s then g.value else none

/-- The value that counts for a setting. -/
def last? (c : Command) (s : Setting) : Option String := (c.all s).getLast?

/-- The least level that is reported. -/
def level (c : Command) : Level :=
  if c.has .debug then .debug
  else if c.has .quiet then .error
  else if c.has .verbose then .debug
  else ((c.last? .level).bind (levelNames.lookup ·)).getD .info

/-- The words before the command: whether some of them mean nothing, and the name of the command with
the words after it. -/
def front : (excess : Bool) → List String → Except Exit (Bool × Option (String × List String))
  | excess, [] => .ok (excess, none)
  | excess, text :: rest => do
    if text = "--" then throw .usage
    match ← wordOf [helpRule] text with
    | .operand name => return (excess, some (name, rest))
    | .separator => throw .usage
    | .option used =>
      let taken ← take [helpRule] used []
      let _ ← give .help taken.given
      front (excess || !taken.complete) rest

/-- The command that a command line asks for, if it asks for one. -/
def read (words : List String) : Except Exit (Option Command) := do
  match ← front false words with
  | (true, none) => throw .usage
  | (false, none) => return none
  | (excess, some (called, rest)) =>
    match commandNames.lookup called with
    | none => throw .usage
    | some name =>
      let line ← readLine (rulesOf name) .help rest
      match line.operand with
      | none => throw .usage
      | some blueprint =>
        if excess || line.excess then throw .usage
        return some ⟨name, blueprint, line.given⟩

end Command

end Scaffold.CommandLine
