import Subshell.Fault
import Subshell.Log.Notice
/-!
Runs: computations that change a state, keep a journal and may stop at a fault.

The journal records, in order, the notices for the log, the texts put out, and the beginnings and
ends of the invocations of commands. What was recorded and changed before a fault stays.
-/

namespace Subshell

/-- What a command is invoked with: its name, the text after the name, and the number of nested
invocations that it lies inside of. -/
structure Context where
  command : Text
  args : Text := []
  depth : Int := 0
  deriving DecidableEq, Repr

/-- What an output comes from. -/
inductive Channel
  /-- A command that puts something out. -/
  | commands
  /-- The console that lines are typed into. -/
  | console
  /-- The prompt of the console. -/
  | prompt
  deriving DecidableEq, Repr

/-- An entry of the journal. -/
inductive Event
  | notice (notice : Notice)
  | output (channel : Channel) (text : Text)
  /-- A command is invoked. -/
  | invoked (context : Context)
  /-- An invocation is over, be it with replies or with a fault. -/
  | finished (context : Context)

/-- A state and the journal, its latest event first. -/
structure Recorded (σ : Type) where
  state : σ
  journal : List Event := []

/-- A computation over a state `σ` that keeps a journal and may stop at a fault. -/
abbrev Run (σ α : Type) := ExceptT Fault (StateM (Recorded σ)) α

namespace Run

variable {σ α : Type}

/-- Records an event. -/
def record (event : Event) : Run σ Unit :=
  modify fun r => { r with journal := event :: r.journal }

/-- Tells the log a notice. -/
def note (notice : Notice) : Run σ Unit := record (.notice notice)

/-- Puts out a text. -/
def output (channel : Channel) (text : Text) : Run σ Unit := record (.output channel text)

/-- The state. -/
def state : Run σ σ := do return (← get).state

/-- Changes the state. -/
def change (f : σ → σ) : Run σ Unit := modify fun r => { r with state := f r.state }

/-- The result of a run that goes on from what was recorded, and what is recorded after it. -/
def exec (run : Run σ α) (r : Recorded σ) : Except Fault α × Recorded σ :=
  StateT.run (ExceptT.run run) r

/-- The result, the state and the events in order, of a run that starts from a state. -/
def start (state : σ) (run : Run σ α) : Except Fault α × σ × List Event :=
  let (result, recorded) := run.exec ⟨state, []⟩
  (result, recorded.state, recorded.journal.reverse)

/-- The result of a run as a value: a fault does not stop what follows. -/
def attempt (run : Run σ α) : Run σ (Except Fault α) := ExceptT.lift (ExceptT.run run)

/-- Goes on with a result or stops at its fault. -/
def ofExcept (result : Except Fault α) : Run σ α := ExceptT.mk (pure result)

/-- A run between two events. The second is recorded even if the run stops at a fault. -/
def within (first last : Event) (run : Run σ α) : Run σ α := do
  record first
  let result ← attempt run
  record last
  ofExcept result

@[simp] theorem exec_pure (a : α) (r : Recorded σ) : (pure a : Run σ α).exec r = (.ok a, r) := rfl

@[simp] theorem exec_throw (fault : Fault) (r : Recorded σ) :
    (throw fault : Run σ α).exec r = (.error fault, r) := rfl

/-- A run goes on after a result, from what was recorded, and not after a fault. -/
theorem exec_bind {β : Type} (run : Run σ α) (next : α → Run σ β) (r : Recorded σ) :
    (run >>= next).exec r =
      match run.exec r with
      | (.ok a, r) => (next a).exec r
      | (.error fault, r) => (.error fault, r) := by
  simp only [exec, ExceptT.run_bind, StateT.run_bind]
  rcases StateT.run (ExceptT.run run) r with ⟨_ | _, _⟩ <;> rfl

@[simp] theorem exec_record (event : Event) (r : Recorded σ) :
    (record event).exec r = (.ok (), { r with journal := event :: r.journal }) := rfl

@[simp] theorem exec_note (notice : Notice) (r : Recorded σ) :
    (note notice).exec r = (.ok (), { r with journal := .notice notice :: r.journal }) := rfl

@[simp] theorem exec_output (channel : Channel) (text : Text) (r : Recorded σ) :
    (output channel text).exec r =
      (.ok (), { r with journal := .output channel text :: r.journal }) := rfl

@[simp] theorem exec_state (r : Recorded σ) : (state : Run σ σ).exec r = (.ok r.state, r) := rfl

@[simp] theorem exec_change (f : σ → σ) (r : Recorded σ) :
    (change f).exec r = (.ok (), { r with state := f r.state }) := rfl

/-- An attempt has a result in any case, and what is recorded is the same. -/
@[simp] theorem exec_attempt (run : Run σ α) (r : Recorded σ) :
    run.attempt.exec r = (.ok (run.exec r).1, (run.exec r).2) := rfl

@[simp] theorem exec_ofExcept (result : Except Fault α) (r : Recorded σ) :
    (ofExcept result).exec r = (result, r) := rfl

/-- Recording the events around a run does not change its result. -/
@[simp] theorem exec_within (first last : Event) (run : Run σ α) (r : Recorded σ) :
    (within first last run).exec r =
      let (result, after) := run.exec { r with journal := first :: r.journal }
      (result, { after with journal := last :: after.journal }) := rfl

end Run

end Subshell
