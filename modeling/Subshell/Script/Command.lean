import Subshell.Handling
/-!
Scripted commands: commands of the host that are described by data.

A script is a list of actions, done in order: it replies, runs texts under the current settings,
changes the registry, and may end in a fault. The host keeps several settings to run texts under,
one of which is current, and notes every invocation of a scripted command.
-/

namespace Subshell.Script

/-- A part of its context that a script shows. -/
inductive Shown
  | command
  | args
  | depth
  /-- Each word of the arguments. -/
  | words
  deriving DecidableEq, Repr

/-- A step of a script. -/
inductive Action
  | reply (value : Value)
  | reveal (part : Shown)
  /-- Runs a text one deeper and replies with the result. -/
  | run (text : Text)
  | unregister (name : Text)
  | register (name help : Text) (script : List Action)
  | raise (fault : Fault)
  deriving Inhabited

/-- The state of a host of scripted commands. -/
structure Host where
  /-- The settings that texts may be run under. -/
  dispatchers : List Settings := []
  /-- Which of them is current. -/
  current : Nat := 0
  /-- The invocations of scripted commands, the latest first. -/
  trace : List Context := []
  deriving Inhabited

/-- The current settings, if there are any. -/
def Host.settings? (host : Host) : Option Settings := host.dispatchers[host.current]?

/-- A run under scripted commands. -/
abbrev Play (α : Type) := Task (List Action) Host α

/-- The current settings, which `part` is asked of; a fault when there are none. -/
def settingsFor (part : Text) : Play Settings := do
  Run.ofExcept (Fault.demand part (← Run.state).host.settings?)

/-- What a script shows of its context. -/
def Shown.texts (context : Context) : Shown → List Text
  | command => [context.command]
  | args => [context.args]
  | depth => [Text.ofInt context.depth]
  | words => Text.words context.args

/-- Does a step; the result is its replies. -/
def Action.perform (call : Caller (List Action) Host) (context : Context) :
    Action → Play (List Text)
  | reply value => return [← Run.ofExcept value.shown]
  | reveal part => return part.texts context
  | run text => do
    return [← call (← settingsFor "run") text (context.depth + 1)]
  | unregister name => do
    Workspace.unregister name
    return []
  | register name help script => do
    Workspace.register name (.custom script) help
    return []
  | raise fault => throw fault

/-- Does the steps of a script in order. -/
def perform (script : List Action) (call : Caller (List Action) Host) (context : Context) :
    Play (List Text) := do
  Run.change fun w => { w with host := { w.host with trace := context :: w.host.trace } }
  let replies ← script.mapM (·.perform call context)
  return replies.flatten

/-- The engine of a host of scripted commands. -/
def engine (capacity : Option Nat) : Engine (List Action) Host where
  act := perform
  capacity := capacity

/-- Adds settings to run texts under and makes them current; the shell is registered under them
unless there is one. The result is their index. -/
def addDispatcher (settings : Settings) : Play Nat := do
  Workspace.registerShell settings
  let index := (← Run.state).host.dispatchers.length
  Run.change fun w =>
    let dispatchers := w.host.dispatchers ++ [settings]
    { w with host := { w.host with dispatchers, current := index } }
  return index

/-- Makes settings current. Negative indices count from the end. -/
def useDispatcher (index : Int) : Play Unit := do
  let count : Int := (← Run.state).host.dispatchers.length
  let place := if index < 0 then count + index else index
  if 0 ≤ place ∧ place < count then
    Run.change fun w => { w with host := { w.host with current := place.toNat } }
  else throw .outOfRange

end Subshell.Script
