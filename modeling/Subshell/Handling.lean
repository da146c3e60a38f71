import Subshell.Engine
import Subshell.Outcome
/-!
Handling a line of input.

A line is dispatched at depth zero, and what comes of it is told as an outcome: a failure of a
command is reported and does not stop the run. Only an interruption does, and a failure whose own
description is not valid.
-/

namespace Subshell.Engine

variable {ι σ : Type} (engine : Engine ι σ)

/-- The first word of a line; the empty text for a line without words. -/
def commandOf (line : Text) : Text := ((Text.firstWord? line).map Prod.fst).getD []

/-- The outcome of a line that failed. -/
def failed (command : Text) (known : Bool) (failure : Failure) : Outcome :=
  { failure := some failure, content := failure.message, command, known }

/-- What is reported of a fault on a line, after the log is told. A position before the start of the
text makes the description invalid, and an interruption is not reported at all. -/
def reportFault (line command : Text) (known : Bool) : Fault → Task ι σ Outcome
  | .tooDeep fault => do
    Run.note (.depthLimitHit line fault.summary)
    if fault.position.any (· < 0) then throw (.invalid [⟨[.field "position"], .negative⟩])
    return failed command known ⟨.depthExceeded, fault.summary, some
      { failingCommand := some fault.source, position := fault.position, limit := fault.limit }⟩
  | .evaluation fault => do
    Run.note (.evaluationFailed line fault.message)
    return failed command known ⟨.unexpectedError, "Evaluation error: " ++ fault.message, some
      { failingCommand := some fault.source,
        faultKind := some (Fault.evaluation fault).typeName }⟩
  | fault => do
    -- an interruption ends the session and is not an outcome
    if !fault.isFailure then throw fault
    Run.note (.commandFailed line fault.message)
    return failed command known ⟨.commandFailure, "Command failed: " ++ fault.message, some
      { failingCommand := some line, faultKind := some fault.typeName }⟩

/-- What comes of a line under settings. -/
def handle (settings : Settings) (line : Text) : Task ι σ Outcome := do
  Run.note (.received line)
  let command := commandOf line
  let known := (← Run.state).registry.contains command
  match ← Run.attempt (engine.dispatch settings line 0) with
  | .ok replies =>
    return { content := Text.join settings.separator replies, replies, command, known }
  | .error fault => reportFault line command known fault

end Subshell.Engine
