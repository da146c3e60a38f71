import Subshell.Handling
import Subshell.Value.Layout
/-!
The console: lines typed by a user, one after another.

A line that begins with a slash is a control line of the console itself: it asks for help, turns the
notes of the following lines on or off, or ends the session. Every other line is handled by the
engine, and its outcome is printed. The session ends at the end of the input, at an interruption, or
by a control line. A console without settings takes control lines only, and its help breaks off
before the commands of the shell.
-/

namespace Subshell.Console

variable {ι σ : Type}

/-- Prints a line. -/
def print (line : Text) : Task ι σ Unit := Run.output .console (line ++ "\n")

/-- What a control line asks for. -/
inductive Control
  | help
  | exit
  /-- Notes on or off, or the opposite of what they are. -/
  | verbose (setting : Option Bool)
  /-- A setting of the notes that is none. -/
  | badOption (text : Text)
  | unknown (word : Text)
  deriving DecidableEq, Repr

/-- The words that turn notes on. -/
def onWords : List Text := ["on", "true", "yes", "1"]

/-- The words that turn notes off. -/
def offWords : List Text := ["off", "false", "no", "0"]

/-- What the arguments of a verbosity line ask for. -/
def Control.ofVerbosity (args : Text) : Control :=
  if args.isEmpty then .verbose none
  else if args.lower ∈ onWords then .verbose (some true)
  else if args.lower ∈ offWords then .verbose (some false)
  else .badOption args

/-- What a control line asks for. -/
def Control.ofLine (line : Text) : Control :=
  let (word, args) := (Text.firstWord? line).getD ([], [])
  let word := word.lower
  if word = "/help".toList then .help
  else if word = "/exit".toList then .exit
  else if word = "/verbose".toList then .ofVerbosity args
  else .unknown word

/-- Does what a control line asks for; the result is whether notes are printed from now on. -/
def control (settings : Option Settings) (verbose : Bool) : Control → Task ι σ Bool
  | .help => do
    print "Available commands:"
    print "  /help - Show this help"
    print "  /verbose [on|off] - Toggle verbose mode"
    print "  /exit - Exit the REPL"
    print "Shell commands:"
    -- without settings the help breaks off here
    let _ ← Run.ofExcept (Fault.demand "registry" settings)
    for entry in (← Run.state).registry.sorted do
      print ("  " ++ entry.name ++ " - " ++ entry.help)
    return verbose
  | .exit => do
    print "Exiting..."
    throw (.exit 0)
  | .verbose setting => do
    let verbose := setting.getD (!verbose)
    print ("Verbose mode: " ++ if verbose then "on".toList else "off".toList)
    return verbose
  | .badOption text => do
    print ("Invalid option: " ++ text)
    print "Usage: /verbose [on|off]"
    return verbose
  | .unknown word => do
    print ("Unknown command: " ++ word)
    print "Type /help for available commands"
    return verbose

/-- Prints an outcome, with its notes if they are wanted. -/
def display (verbose : Bool) (outcome : Outcome) : Task ι σ Unit := do
  if outcome.failure.isSome then
    print ("Error: " ++ outcome.content)
  else if !outcome.content.isEmpty then
    print outcome.content
  else if !outcome.known then
    print ("Unknown command: " ++ outcome.command)
    print "Type 'help' to list commands"
  if verbose then
    print "\nNotes:"
    print ((Value.object outcome.notes).laidOut 0)

/-- Takes a line, blanks at its ends not counted; the result is whether notes are printed from now
on. -/
def process (engine : Engine ι σ) (settings : Option Settings) (verbose : Bool) (line : Text) :
    Task ι σ Bool := do
  let line := Text.strip line
  if line.isEmpty then return verbose
  else if line.head? = some '/' then control settings verbose (Control.ofLine line)
  else
    let settings ← Run.ofExcept (Fault.demand "handle" settings)
    display verbose (← engine.handle settings line)
    return verbose

/-- How a session ended. -/
structure Ending where
  /-- Whether notes were printed at the end. -/
  verbose : Bool
  /-- The input that was not read. -/
  unread : Text
  /-- The fault that ended the session, if it did not end by itself. -/
  fault : Option Fault := none

/-- The interruptions that end a session as the end of the input does. -/
def endings : List Text := ["KeyboardInterrupt", "EOFError"]

/-- Reads lines from the input and takes them, until the session ends. -/
def converse (engine : Engine ι σ) (settings : Option Settings) (verbose : Bool) (input : Text) :
    Task ι σ Ending := do
  Run.output .prompt "> "
  match input with
  | [] =>
    print "\nExiting..."
    return ⟨verbose, [], none⟩
  | c :: rest =>
    let line := (c :: rest).takeWhile (· ≠ '\n')
    -- the line break goes with the line, if there is one
    let left := ((c :: rest).drop line.length).drop 1
    match ← Run.attempt (process engine settings verbose line) with
    | .ok verbose => converse engine settings verbose left
    | .error fault =>
      if fault.typeName ∈ endings then
        print "\nExiting..."
        return ⟨verbose, left, none⟩
      else return ⟨verbose, left, some fault⟩
termination_by input.length
decreasing_by
  simp only [List.length_drop, List.length_cons]
  omega

/-- Prints the lines that a session begins with. -/
def greet : Task ι σ Unit := do
  print "cmdshell REPL started"
  print "Type commands such as 'shell echo $(ping)' (/help for help)"

/-- A session on an input. -/
def session (engine : Engine ι σ) (settings : Option Settings) (input : Text) :
    Task ι σ Ending := do
  greet
  converse engine settings false input

end Subshell.Console
