import Subshell.Run
/-!
Reading commands in the engine.

Two bounds hold for the nesting of interpolations: the limit of the settings, and the capacity of
the engine, beyond which it cannot follow. Where the capacity is the smaller of the two, a command
beyond it is refused with a fault of its own.
-/

namespace Subshell

/-- The depth limit of interpolations unless the settings give another. -/
def defaultLimit : Nat := 32

/-- How deep interpolations may lie inside one another; `none` for no bound. -/
structure Nesting where
  limit : Option Nat := some defaultLimit
  capacity : Option Nat := none

namespace Nesting

/-- The smaller of the two bounds. -/
def room (nesting : Nesting) : Option Nat :=
  match nesting.limit, nesting.capacity with
  | none, capacity => capacity
  | some limit, none => some limit
  | some limit, some capacity => some (min limit capacity)

/-- The details of a command that the engine cannot follow. -/
def exhaustion : Text := "maximum recursion depth exceeded"

/-- Whether a fault comes from the capacity and not from the limit. -/
def exhausts (nesting : Nesting) (fault : ParseFault) : Bool :=
  fault.cause = .tooDeep && nesting.room != nesting.limit

/-- The fault that stops the reading of a text. -/
def fault (nesting : Nesting) (text : Text) (fault : ParseFault) : Fault :=
  if nesting.exhausts fault then .tooDeep ⟨text, nesting.limit.map Int.ofNat, exhaustion, none⟩
  else fault.toFault nesting.limit text

/-- What the log is told about a fault. -/
def notice (nesting : Nesting) (text : Text) (fault : ParseFault) : Notice :=
  let position := fault.position text
  match fault.cause with
  | .tooDeep =>
    if nesting.exhausts fault then .nestingExhausted else .markerTooDeep position nesting.limit
  | .unclosed => .unclosedMarker position text
  | .stray => .strayMarker position text
  | .dangling => .danglingEscape text

/-- The command that a text writes. -/
def parse (nesting : Nesting) (text : Text) : Except Fault Command :=
  (Command.parse nesting.room text).mapError (nesting.fault text)

/-- The command that a text writes; the log is told of the start and of the end. -/
def read {σ : Type} (nesting : Nesting) (text : Text) : Run σ Command := do
  Run.note (.parsing text)
  match Command.parse nesting.room text with
  | .ok command =>
    Run.note (.parsed command.length)
    return command
  | .error fault =>
    Run.note (nesting.notice text fault)
    throw (nesting.fault text fault)

/-- The nesting for a limit that a caller asks for; a limit below one is refused. -/
def ofLimit (capacity : Option Nat) : Option Int → Except Fault Nesting
  | none => .ok ⟨none, capacity⟩
  | some (.ofNat (limit + 1)) => .ok ⟨some (limit + 1), capacity⟩
  | some _ => .error .limitBelowOne

/-- The command that a value writes: only a text can write one. -/
def readValue {σ : Type} (nesting : Nesting) : Value → Run σ Command
  | .text text => nesting.read text
  | _ => throw .notText

end Nesting

end Subshell
