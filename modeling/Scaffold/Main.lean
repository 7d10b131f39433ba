import Scaffold.CommandLine.Run
import Scaffold.FileTree.Listing

/-!
# The program

The program is a filter. The files that it works on come in on standard input and what it changes goes
out on standard output, so that it needs no other access to them. The working directory is the top of
the file tree.

A line of the input is a kind, the bytes of a file in hexadecimal digits or a hyphen, and a path, with
spaces between them; the kinds are `file`, `executable` and `directory`. An empty line ends the files,
and what follows are the replies of the user. Changes are written in the same form, with the further
kind `removed`, after an empty line behind what the command prints. The log goes to standard error.
-/

namespace Scaffold

/-- Bytes from hexadecimal digits. -/
def bytesOfHex : List Char → List UInt8
  | a :: b :: rest =>
    match Text.Numeral.digit? 16 a, Text.Numeral.digit? 16 b with
    | some m, some n => UInt8.ofNat (16 * m + n) :: bytesOfHex rest
    | _, _ => []
  | _ => []

/-- Hexadecimal digits for bytes; a hyphen if there are none. -/
def hexOfBytes (bytes : ByteArray) : String :=
  if bytes.isEmpty then "-" else String.join (bytes.toList.map Text.EncodingFault.hexByte)

/-- The tree with the file or directory of a line. -/
def addLine (tree : FileTree) (line : String) : FileTree :=
  match (Text.split [' '] line.toList).map String.ofList with
  | kind :: content :: path =>
    let names := Path.names (String.intercalate " " path)
    let bytes : ByteArray := ⟨(bytesOfHex content.toList).toArray⟩
    if kind = "directory" then (tree.makeDirectories [] names).1
    else FileTree.put (.file bytes (kind = "executable")) names tree
  | _ => tree

/-- The line of a change. -/
def lineOfChange : FileTree.Change → String
  | .removed path => "removed - " ++ path
  | .present ⟨path, none⟩ => "directory - " ++ path
  | .present ⟨path, some (bytes, executable)⟩ =>
    (if executable then "executable " else "file ") ++ hexOfBytes bytes ++ " " ++ path

/-- What is written when a command line should have been different. -/
def usage : String :=
  "usage: skem install BLUEPRINT [-d DEST] [-v KEY=VALUE] [--variables-file FILE] [--pick FILTER]\n" ++
    "                    [-f] [--dry-run] [--no-input] [LOGGING]\n" ++
    "       skem variables BLUEPRINT [LOGGING]"

/-- Runs a command on the files and replies of the given input, and writes how it has ended. -/
def runOn (command : CommandLine.Command) (input : String) : IO UInt32 := do
  let lines := (Text.split ['\n'] input.toList).map String.ofList
  let tree := (lines.takeWhile (· ≠ "")).foldl addLine .empty
  let replies := String.intercalate "\n" (lines.dropWhile (· ≠ "")).tail
  let run := CommandLine.run command tree ⟨[]⟩ (CommandLine.repliesOf replies)
  IO.print run.output
  for entry in run.log command.level do
    IO.eprintln entry
  IO.println ""
  for change in tree.changes run.tree do
    IO.println (lineOfChange change)
  match run.exit with
  | .ok code => return code.toUInt32
  | .error e =>
    IO.eprintln (CommandLine.Ending.ofBlueprint e).message
    return 1

end Scaffold

/-- The program. -/
def main (args : List String) : IO UInt32 := do
  match Scaffold.CommandLine.Command.read args with
  | .error .help =>
    IO.println Scaffold.usage
    return 0
  | .error .usage =>
    IO.eprintln Scaffold.usage
    return 2
  | .ok none =>
    IO.println Scaffold.usage
    return 1
  | .ok (some command) =>
    let input ← (← IO.getStdin).readToEnd
    Scaffold.runOn command input
