import Subshell.Command.Evaluation
import Subshell.Registry
/-!
The engine: invoking commands, and the shell that interpolates them.

A text is dispatched to the command that its first word names, and the replies of the command are
joined to a result. The shell reads its arguments as a command, replaces each interpolation by the
result of dispatching it, and dispatches the text that comes out. Each dispatch that the shell makes
is one deeper than its own invocation.

The engine is generic in the handlers of the host: `ι` names them and `σ` is the state that they
share. A handler of the host is given a way back into the engine, `Caller`, of which it need not
make use.
-/

namespace Subshell

/-- What the engine works on: the registered commands and the state of the host. -/
structure Workspace (ι σ : Type) where
  registry : Registry ι := {}
  host : σ

/-- A run of the engine. -/
abbrev Task (ι σ α : Type) := Run (Workspace ι σ) α

/-- A way to dispatch a text under settings and at a depth, with the result joined. -/
abbrev Caller (ι σ : Type) := Settings → Text → Int → Task ι σ Text

/-- An engine: what the handlers of the host do, and how far the engine itself can follow. -/
structure Engine (ι σ : Type) where
  /-- What a handler does when it is invoked; the result is its replies. -/
  act : ι → Caller ι σ → Context → Task ι σ (List Text)
  /-- How deep interpolations may lie inside one another; `none` for no bound. -/
  capacity : Option Nat := none
  /-- How many dispatches may lie inside one another. -/
  patience : Nat := 1000

namespace Builtin

/-- All built-in commands, in the order in which they are registered. -/
def all : List Builtin := [ping, echo, upper, lower, reverse, say, help]

/-- The name of a built-in command. -/
def name : Builtin → Text
  | ping => "ping"
  | echo => "echo"
  | upper => "upper"
  | lower => "lower"
  | reverse => "reverse"
  | say => "say"
  | help => "help"

/-- The help of a built-in command. -/
def helpText : Builtin → Text
  | ping => "ping: replies pong"
  | echo => "echo <text>: replies with <text>"
  | upper => "upper <text>: replies with <text> in upper case"
  | lower => "lower <text>: replies with <text> in lower case"
  | reverse => "reverse <text>: replies with <text> reversed"
  | say => "say <target> <text>: sends <text> to <target>; produces no reply"
  | help => "help [command]: lists commands or shows a command's help"

/-- The answer to a request for help about a topic. -/
def helpOn {ι : Type} (registry : Registry ι) (topic : Text) : Text :=
  if topic.isEmpty then
    "Available commands: " ++ Text.join ", " (registry.sorted.map (·.name))
  else
    match registry.lookup topic with
    | none => "No help for unknown command '" ++ topic ++ "'"
    | some entry =>
      if entry.help.isEmpty then "No help available for '" ++ entry.name ++ "'" else entry.help

/-- What a built-in command does with its arguments. Only `say` puts something out, and only it
replies nothing. -/
def act {ι σ : Type} (args : Text) : Builtin → Task ι σ (List Text)
  | ping => return ["pong"]
  | echo => return [args]
  | upper => return [Text.upper args]
  | lower => return [Text.lower args]
  | reverse => return [args.reverse]
  | say =>
    match Text.firstWord? args with
    | none => return ["Usage: say <target> <text>"]
    | some (target, text) => do
      Run.output .commands ("[" ++ target ++ "] " ++ text ++ "\n")
      return []
  | help => return [helpOn (← Run.state).registry (Text.strip args)]

end Builtin

/-- The name of the shell command. -/
def shellName : Text := "shell"

/-- The help of the shell command. -/
def shellHelp : Text :=
  "The \"shell\" command enables interpolation of commands. For example, " ++
  "\"shell say #channel $(ping)\" will say the response of the ping command, \"pong\", " ++
  "in #channel. " ++
  "Note that not all output of commands is considered a response, only replies. " ++
  "It's recommended to interpolate only commands that respond quickly."

namespace Workspace

variable {ι σ : Type}

/-- Registers a command; the log is told. -/
def register (name : Text) (handler : Handler ι) (help : Text) : Task ι σ Unit := do
  match (← Run.state).registry.register name handler help with
  | .error fault => throw (.registration fault)
  | .ok registry =>
    Run.change fun w => { w with registry := registry }
    Run.note (.registered (commandKey name))

/-- Takes the command of a name out of the registry. -/
def unregister (name : Text) : Task ι σ Unit :=
  Run.change fun w => { w with registry := w.registry.unregister name }

/-- Registers the built-in commands. -/
def registerBuiltins : Task ι σ Unit :=
  Builtin.all.forM fun b => register b.name (.builtin b) b.helpText

/-- Registers the shell under settings, unless there is one. -/
def registerShell (settings : Settings) : Task ι σ Unit := do
  unless (← Run.state).registry.contains shellName do
    register shellName (.shell settings) shellHelp

end Workspace

namespace Engine

variable {ι σ : Type} (engine : Engine ι σ)

/-- The bounds on nesting for a shell with these settings. -/
def nesting (settings : Settings) : Nesting := ⟨settings.limit, engine.capacity⟩

/-- What the shell does with a command: it replaces the interpolations, calls the text that comes
out, and replies with the result, unless it is empty and empty results are left unanswered. -/
def carryOut (call : Caller ι σ) (settings : Settings) (context : Context) (command : Command) :
    Task ι σ (List Text) := do
  -- the interpolations and the text that comes out are dispatched at the same depth
  let deeper := context.depth + 1
  let text ← command.execute fun inner => return .text (← call settings inner deeper)
  Run.note (.resolved context.args text)
  let result ← call settings text deeper
  return if result.isEmpty && settings.suppressEmpty then [] else [result]

/-- What the shell does: it reads its arguments as a command and carries it out. Arguments that are
no command are answered with a reply; a command nested too deep is a fault. -/
def shell (call : Caller ι σ) (settings : Settings) (context : Context) :
    Task ι σ (List Text) := do
  match ← Run.attempt ((engine.nesting settings).read context.args) with
  | .error (.malformed fault) =>
    Run.note (.malformedShell context.args fault.summary)
    return ["Malformed command " ++ context.args]
  | .error fault => throw fault
  | .ok command => carryOut call settings context command

/-- What a handler does when it is invoked. -/
def perform (call : Caller ι σ) (handler : Handler ι) (context : Context) :
    Task ι σ (List Text) :=
  match handler with
  | .shell settings => engine.shell call settings context
  | .builtin b => b.act context.args
  | .custom h => engine.act h call context

/-- Stops a dispatch that lies deeper than the limit. -/
def checkDepth (settings : Settings) (text : Text) (depth : Int) : Task ι σ Unit := do
  if let some limit := settings.limit then
    if (limit : Int) < depth then
      Run.note (.invocationTooDeep depth limit text)
      throw (.tooDeep ⟨text, some limit,
        "Nested command invocation at depth " ++ Text.ofInt depth, none⟩)

/-- One dispatch: the command that the first word of the text names is invoked with the rest. A text
without words, or without a command to its first word, has no replies. -/
def dispatchOnce (call : Caller ι σ) (settings : Settings) (text : Text) (depth : Int) :
    Task ι σ (List Text) := do
  checkDepth settings text depth
  match Text.firstWord? (Text.strip text) with
  | none => return []
  | some (word, args) =>
    match (← Run.state).registry.lookup word with
    | none =>
      Run.note (.unknownCommand word depth)
      return []
    | some entry =>
      -- the name is that of the registration, however the word was written
      let context : Context := ⟨entry.name, args, depth⟩
      Run.note (.dispatching entry.name args depth)
      Run.within (.invoked context) (.finished context)
        (engine.perform call entry.handler context)

/-- The replies joined to a result; the log is told. -/
def joined (settings : Settings) (text : Text) (replies : Task ι σ (List Text)) :
    Task ι σ Text := do
  let result := Text.join settings.separator (← replies)
  Run.note (.returned text result)
  return result

/-- Dispatches a text, with at most `rounds` dispatches inside one another. -/
def dispatchWithin : (rounds : Nat) → Settings → Text → Int → Task ι σ (List Text)
  | 0, _, _, _ => throw .exhausted
  | rounds + 1, settings, text, depth =>
    engine.dispatchOnce
      (fun settings text depth => joined settings text (dispatchWithin rounds settings text depth))
      settings text depth

/-- The result of a text, with at most `rounds` dispatches inside one another. -/
def runWithin (rounds : Nat) : Caller ι σ := fun settings text depth =>
  joined settings text (engine.dispatchWithin rounds settings text depth)

/-- The replies to a text. -/
def dispatch (settings : Settings) (text : Text) (depth : Int) : Task ι σ (List Text) :=
  engine.dispatchWithin engine.patience settings text depth

/-- The result of a text. -/
def run (settings : Settings) (text : Text) (depth : Int) : Task ι σ Text :=
  engine.runWithin engine.patience settings text depth

/-- Invokes a handler directly in a context. -/
def invoke (handler : Handler ι) (context : Context) : Task ι σ (List Text) :=
  engine.perform (engine.runWithin engine.patience) handler context

end Engine

end Subshell
