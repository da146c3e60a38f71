import Subshell.Console
import Subshell.Log.Book
import Subshell.Options
/-!
The program as it is run from a command line.

The words of the command line and the environment give the settings. Then the log is set up and the
built-in commands and the shell are registered. The program handles a single line, if one is given,
and prints what comes of it, or else holds a session on its input.
-/

namespace Subshell.Program

/-- An engine without handlers of a host. -/
def engine (capacity : Option Nat) : Engine Empty Unit where
  act := nofun
  capacity := capacity

/-- What a run leaves behind: the exit code or the fault that ended it, and what went to standard
error. Standard output and the files are in the log book. -/
structure Completion where
  code : Except Fault Int
  book : LogBook
  complaint : Text := []

/-- The book after an event. -/
def enter (book : LogBook) : Event → LogBook
  | .notice notice => book.tell notice.source notice.severity.number notice.message
  | .output _ text => book.print text
  | .invoked _ | .finished _ => book

/-- The name of the level at which the log starts. A single line is run quietly unless a level is
asked for. -/
def startLevel (arguments : Arguments) (environment : Environment) (settings : Settings) : Text :=
  let asked := arguments.logLevel.isPresent || (environment.lookup Environment.levelVariable).isSome
  if asked || !arguments.command.isPresent then settings.level.text else LevelName.warning.text

/-- Handles a single line; the result is the exit code and what goes to standard error. -/
def runLine (engine : Engine Empty Unit) (settings : Settings) (line : Text) :
    Task Empty Unit (Int × Text) := do
  let outcome ← engine.handle settings line
  if outcome.failure.isSome then return (1, "Error: " ++ outcome.content ++ "\n")
  else
    unless outcome.content.isEmpty do Console.print outcome.content
    return (0, [])

/-- Holds a session on the input. -/
def runSession (engine : Engine Empty Unit) (settings : Settings) (input : Text) :
    Task Empty Unit (Int × Text) := do
  let ending ← Console.session engine (some settings) input
  match ending.fault with
  | some fault => throw fault
  | none => return (0, [])

/-- What the program does once its log is set up. -/
def task (engine : Engine Empty Unit) (settings : Settings) (line : Given Text) (input : Text) :
    Task Empty Unit (Int × Text) := do
  Workspace.registerBuiltins
  Workspace.registerShell settings
  match line with
  | .value line => runLine engine settings line
  | .vacant =>
    Run.note (.received "[]")
    throw .vacantLine
  | .absent => runSession engine settings input

/-- The settings of a run. What the log is told meanwhile comes before the log is set up and is
lost. -/
def settingsOf (arguments : Arguments) (environment : Environment) : Except Fault Settings :=
  (Run.start () (arguments.settings environment)).1

/-- The arguments and settings of a run, or how the run ends without them. -/
def prepare (book : LogBook) (words : List Text) (environment : Environment) :
    Except Completion (Arguments × Settings) :=
  match Arguments.ofWords words with
  | .error stop => .error ⟨.error (.exit stop.code), book.print stop.output, stop.complaint⟩
  | .ok arguments =>
    match settingsOf arguments environment with
    | .error fault => .error ⟨.error fault, book, []⟩
    | .ok settings => .ok (arguments, settings)

/-- A run of the program. -/
def run (engine : Engine Empty Unit) (book : LogBook) (words : List Text)
    (environment : Environment) (input : Text) : Completion :=
  match prepare book words environment with
  | .error done => done
  | .ok (arguments, settings) =>
    match book.setUp (startLevel arguments environment settings) arguments.logFile.value? with
    | (book, some fault) => ⟨.error (.file fault), book, []⟩
    | (book, none) =>
      let (result, _, events) :=
        Run.start ⟨{}, ()⟩ (task engine settings arguments.command input)
      let book := events.foldl enter book
      match result with
      | .ok (code, complaint) => ⟨.ok code, book, complaint⟩
      | .error fault => ⟨.error fault, book, []⟩

end Subshell.Program
