import Std.Time.Format
import Subshell.Program
/-!
The executable: the program on the real input, output and files.

Everything is decided by the program; here lines are read as they are typed, and what the journal
holds is written out as soon as it is known.
-/

namespace Subshell.Main

/-- How deep interpolations may lie inside one another in the executable. -/
def capacity : Nat := 490

/-- The time of day as lines of the log carry it. -/
def timeText : IO Text := do
  let now ← Std.Time.PlainDateTime.now
  return (now.format "uuuu-MM-dd HH:mm:ss,SSS").toList

/-- The environment as far as the program looks at it. -/
def environment : IO Environment := do
  let names := [Environment.limitVariable, Environment.separatorVariable,
    Environment.suppressVariable, Environment.levelVariable]
  let found ← names.mapM fun name => do
    return (← IO.getEnv (String.ofList name)).map fun text => (name, text.toList)
  return found.filterMap id

/-- Where the executable writes: its output and its log. -/
structure Streams where
  output : IO.FS.Stream
  log : IO.FS.Stream

/-- Writes a text at once. -/
def put (stream : IO.FS.Stream) (text : Text) : IO Unit := do
  stream.putStr (String.ofList text)
  stream.flush

/-- Writes what an event of the journal says. -/
def write (streams : Streams) (book : LogBook) (event : Event) : IO Unit := do
  let timed := { book with time := ← timeText, printed := [] }
  let text := (Program.enter timed event).printed
  match event with
  | .notice _ => put streams.log text
  | _ => put streams.output text

/-- The state of the program between two lines. -/
abbrev State := Workspace Empty Unit

/-- Runs a step of the program and writes out its journal. -/
def step {α : Type} (streams : Streams) (book : LogBook) (state : State)
    (task : Task Empty Unit α) : IO (Except Fault α × State) := do
  let (result, state, events) := Run.start state task
  events.forM (write streams book)
  return (result, state)

/-- Tells of a fault that ends the program. -/
def abort (fault : Fault) : IO UInt32 := do
  match fault with
  | .exit code => return UInt32.ofNat code.toNat
  | fault =>
    put (← IO.getStderr) (fault.typeName ++ ": " ++ fault.message ++ "\n")
    return 1

/-- Reads lines until the session ends. -/
partial def converse (streams : Streams) (book : LogBook) (settings : Settings) (verbose : Bool)
    (state : State) : IO UInt32 := do
  put streams.output "> "
  let line ← (← IO.getStdin).getLine
  if line.isEmpty then
    put streams.output "\nExiting...\n"
    return 0
  let (result, state) ← step streams book state
    (Console.process (Program.engine (some capacity)) (some settings) verbose line.toList)
  match result with
  | .ok verbose => converse streams book settings verbose state
  | .error fault => abort fault

/-- Opens the log: a file, made with the directories above it, or the output. -/
def openLog (output : IO.FS.Stream) (file : Option Text) : IO IO.FS.Stream := do
  match file with
  | none => return output
  | some path =>
    let name := String.ofList path
    let directory := String.ofList (Text.join ['/'] ((path.splitOn '/').dropLast))
    unless directory.isEmpty do IO.FS.createDirAll directory
    return IO.FS.Stream.ofHandle (← IO.FS.Handle.mk name .append)

/-- Runs the program with its log set up. -/
def run (arguments : Arguments) (settings : Settings) (level : Text) : IO UInt32 := do
  let output ← IO.getStdout
  let path := LogBook.filePath arguments.logFile.value?
  let streams : Streams := ⟨output, ← openLog output path⟩
  let (book, _) := ({ time := ← timeText } : LogBook).setUp level none
  let target := path.getD "stdout"
  let engine := Program.engine (some capacity)
  write streams book (.notice (.logStarted (levelText book.root) target))
  match arguments.command with
  | .value _ | .vacant =>
    let (result, _) ← step streams book ⟨{}, ()⟩
      (Program.task engine settings arguments.command [])
    match result with
    | .ok (code, complaint) =>
      put (← IO.getStderr) complaint
      return UInt32.ofNat code.toNat
    | .error fault => abort fault
  | .absent =>
    let start : Task Empty Unit Unit := do
      Workspace.registerBuiltins
      Workspace.registerShell settings
      Console.greet
    let (_, state) ← step streams book ⟨{}, ()⟩ start
    converse streams book settings false state

end Subshell.Main

open Subshell in
/-- The entry point. -/
def main (words : List String) : IO UInt32 := do
  let environment ← Main.environment
  match Program.prepare {} (words.map String.toList) environment with
  | .error done =>
    Main.put (← IO.getStdout) done.book.printed
    Main.put (← IO.getStderr) done.complaint
    match done.code with
    | .ok code => return UInt32.ofNat code.toNat
    | .error fault => Main.abort fault
  | .ok (arguments, settings) =>
    Main.run arguments settings (Program.startLevel arguments environment settings)
