import Subshell.Command.Evaluation
/-!
Loose trees: commands put together by hand, whose shape nobody has checked.

Besides literals and interpolations a loose tree may hold a sequence directly inside a sequence, and
values that are no nodes at all. On the trees of commands every function here agrees with the one on
commands.
-/

namespace Subshell

/-- A tree put together by hand. -/
inductive Loose
  | nil
  | literal (text : Text) (rest : Loose)
  | interpolation (inner rest : Loose)
  /-- A sequence directly inside a sequence. -/
  | group (inner rest : Loose)
  /-- A value that is no node. -/
  | foreign (value : Value) (rest : Loose)
  deriving Inhabited

/-- A command as a loose tree. -/
def Command.loose : Command → Loose
  | .nil => .nil
  | .literal text rest => .literal text rest.loose
  | .interpolation inner rest => .interpolation inner.loose rest.loose

namespace Loose

/-- The command that a tree is, if it holds literals and interpolations only. -/
def command? : Loose → Option Command
  | nil => some .nil
  | literal text rest => return .literal text (← rest.command?)
  | interpolation inner rest => return .interpolation (← inner.command?) (← rest.command?)
  | group _ _ => none
  | foreign _ _ => none

@[simp] theorem command?_loose (c : Command) : c.loose.command? = some c := by
  induction c with
  | nil => rfl
  | literal text rest ih => simp [Command.loose, command?, ih]
  | interpolation inner rest ih₁ ih₂ => simp [Command.loose, command?, ih₁, ih₂]

/-- Whether the sequence is empty. -/
def isEmpty : Loose → Bool
  | nil => true
  | _ => false

/-- The text that writes the tree. A sequence inside a sequence leaves no trace in it. -/
def source : Loose → Text
  | nil => []
  | literal text rest => escape text ++ rest.source
  | interpolation inner rest => '$' :: '(' :: inner.source ++ ')' :: rest.source
  | group inner rest => inner.source ++ rest.source
  | foreign _ rest => rest.source

/-- The most interpolations inside one another, those in inner sequences left out. -/
def depth : Loose → Nat
  | nil => 0
  | literal _ rest => rest.depth
  | interpolation inner rest => max (inner.depth + 1) rest.depth
  | group _ rest => rest.depth
  | foreign _ rest => rest.depth

/-- The number of interpolations, those in inner sequences left out. -/
def interpolationCount : Loose → Nat
  | nil => 0
  | literal _ rest => rest.interpolationCount
  | interpolation inner rest => 1 + inner.interpolationCount + rest.interpolationCount
  | group _ rest => rest.interpolationCount
  | foreign _ rest => rest.interpolationCount

/-- The text of a tree in which interpolations stand for what `run` returns and foreign values for
what `unknown` makes of them. -/
def resolve {m : Type → Type} [Monad m] (run : Text → m Text) (unknown : Value → m Text) :
    Loose → m Text
  | nil => pure []
  | literal text rest => do
    let after ← rest.resolve run unknown
    return text ++ after
  | interpolation inner rest => do
    let result ← run (← inner.resolve run unknown)
    let after ← rest.resolve run unknown
    return result ++ after
  | group inner rest => do
    let before ← inner.resolve run unknown
    let after ← rest.resolve run unknown
    return before ++ after
  | foreign value rest => do
    let before ← unknown value
    let after ← rest.resolve run unknown
    return before ++ after

/-- The text of a tree under a callback. A foreign value is a fault. -/
def execute {σ : Type} (tree : Loose) (run : Text → Run σ Value) : Run σ Text := do
  Run.note (.executing tree.interpolationCount)
  tree.resolve (splice run) fun value =>
    throw (.evaluation (.mk ("Unknown node type: " ++ value.typeName) [] []))

@[simp] theorem source_loose (c : Command) : c.loose.source = c.source := by
  induction c with
  | nil => rfl
  | literal text rest ih => simp only [Command.loose, source, Command.source, ih]
  | interpolation inner rest ih₁ ih₂ =>
    simp only [Command.loose, source, Command.source, ih₁, ih₂]

@[simp] theorem depth_loose (c : Command) : c.loose.depth = c.depth := by
  induction c with
  | nil => rfl
  | literal text rest ih => simp only [Command.loose, depth, Command.depth, ih]
  | interpolation inner rest ih₁ ih₂ =>
    simp only [Command.loose, depth, Command.depth, ih₁, ih₂]

@[simp] theorem interpolationCount_loose (c : Command) :
    c.loose.interpolationCount = c.interpolationCount := by
  induction c with
  | nil => rfl
  | literal text rest ih =>
    simp only [Command.loose, interpolationCount, Command.interpolationCount, ih]
  | interpolation inner rest ih₁ ih₂ =>
    simp only [Command.loose, interpolationCount, Command.interpolationCount, ih₁, ih₂]

@[simp] theorem resolve_loose {m : Type → Type} [Monad m] (run : Text → m Text)
    (unknown : Value → m Text) (c : Command) :
    c.loose.resolve run unknown = c.resolve run := by
  induction c with
  | nil => rfl
  | literal text rest ih => simp only [Command.loose, resolve, Command.resolve, ih]
  | interpolation inner rest ih₁ ih₂ =>
    simp only [Command.loose, resolve, Command.resolve, ih₁, ih₂]

/-- Executing a command as a loose tree is executing it. -/
theorem execute_loose {σ : Type} (c : Command) (run : Text → Run σ Value) :
    c.loose.execute run = c.execute run := by
  simp only [execute, Command.execute, interpolationCount_loose, resolve_loose]

end Loose

end Subshell
