import Subshell.Command.Reading
/-!
Evaluating commands.

The interpolations of a command are replaced from left to right, inner ones first: the text of the
inner command, once its own interpolations are replaced, is given to a callback, and the text that
the callback returns takes the place of the interpolation. A returned text is not read again.
-/

namespace Subshell

/-- The text of a command in which each interpolation stands for what `run` returns on the text of
its inner command. -/
def Command.resolve {m : Type → Type} [Monad m] (run : Text → m Text) : Command → m Text
  | .nil => pure []
  | .literal text rest => do
    let after ← rest.resolve run
    return text ++ after
  | .interpolation inner rest => do
    let result ← run (← inner.resolve run)
    let after ← rest.resolve run
    return result ++ after

variable {σ : Type}

/-- A fault as it leaves an interpolation. The end of an iteration cannot: it would end the one over
the parts of the command, and is turned into a failure. -/
def Fault.leaving : Fault → Fault
  | .other kind message =>
    if kind = "StopIteration" then .other "RuntimeError" "generator raised StopIteration"
    else .other kind message
  | fault => fault

/-- What `run` returns on the text of an inner command. It has to return a text. -/
def splice (run : Text → Run σ Value) (inner : Text) : Run σ Text := do
  -- what the callback changed and recorded before a fault stays
  match ← Run.attempt (run inner) with
  | .error fault => throw fault.leaving
  | .ok (.text result) =>
    Run.note (.interpolated inner result)
    return result
  | .ok value =>
    -- the fault shows the value, so one that cannot be written stops at that
    let written ← Run.ofExcept value.write
    throw (.evaluation ⟨"Run callback must return a string.", inner,
      "Got " ++ value.typeName ++ ": " ++ written⟩)

/-- The text of a command under a callback. -/
def Command.execute (command : Command) (run : Text → Run σ Value) : Run σ Text := do
  Run.note (.executing command.interpolationCount)
  command.resolve (splice run)

/-- The text of the command that a text writes, under a callback. -/
def Nesting.evaluate (nesting : Nesting) (text : Text) (run : Text → Run σ Value) :
    Run σ Text := do
  Run.note (.evaluating text)
  let command ← nesting.read text
  command.execute run

end Subshell
