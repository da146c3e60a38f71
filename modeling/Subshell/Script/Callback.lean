import Subshell.Command.Loose
import Subshell.Text.Casing
/-!
Scripted callbacks: callbacks of an evaluation that are described by data.

A script says for each text what the callback does with it, and what it does with all other texts.
The state of an evaluation under a scripted callback is the list of the texts it was called with.
-/

namespace Subshell.Script

/-- A function on the text that a callback is given. -/
inductive TextFunction
  | upper
  | same
  | brackets
  | length
  | empty
  | source
  /-- The number of calls so far, this one included. -/
  | count
  deriving DecidableEq, Repr

/-- What a callback does. -/
inductive Reaction
  | give (value : Value)
  | fail (fault : Fault)
  /-- Evaluates another text under the same callback. -/
  | evaluate (text : Text)
  | apply (function : TextFunction)

/-- A callback described by data. -/
structure Callback where
  table : List (Text × Reaction) := []
  default : Reaction := .apply .upper

/-- The value of a function after `calls` calls. -/
def TextFunction.value (function : TextFunction) (calls : Nat) (text : Text) : Text :=
  match function with
  | upper => Text.upper text
  | same => text
  | brackets => '[' :: text ++ [']']
  | length => Text.ofNat text.length
  | empty => []
  | source => escape text
  | count => Text.ofNat calls

/-- The callback of a script, for evaluations nested at most `room` deep inside callbacks. It notes
each text it is called with. -/
def Callback.respond (callback : Callback) (nesting : Nesting) :
    (room : Nat) → Text → Run (List Text) Value
  | 0, _ => throw .exhausted
  | room + 1, text => do
    Run.change (· ++ [text])
    match (callback.table.lookup text).getD callback.default with
    | .give value => return value
    | .fail fault => throw fault
    | .evaluate other => return .text (← nesting.evaluate other (callback.respond nesting room))
    | .apply function => return .text (function.value (← Run.state).length text)

end Subshell.Script
