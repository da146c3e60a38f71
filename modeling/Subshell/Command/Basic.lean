import Subshell.Text.Basic
/-!
Commands: texts with interpolated commands.

A command is a sequence of literals and interpolations, and an interpolation holds a command again.
`source` writes a command so that reading it gives the command back, and `depth` and
`interpolationCount` measure it.
-/

namespace Subshell

/-- A sequence of literal texts and interpolated commands. -/
inductive Command
  /-- The empty sequence. -/
  | nil
  /-- A literal text and what follows it. -/
  | literal (text : Text) (rest : Command)
  /-- An interpolated command and what follows it. -/
  | interpolation (inner rest : Command)
  deriving DecidableEq, Repr, Inhabited

/-- The text with a backslash in front of each backslash, each `)` and each `$(`. Three passes put
them in: backslashes come first, so that the ones put in later are not doubled. -/
def escape (text : Text) : Text :=
  let slashed := Text.substitute '\\' [] ['\\', '\\'] text
  let opened := Text.substitute '$' ['('] ['\\', '$', '('] slashed
  Text.substitute ')' [] ['\\', ')'] opened

namespace Command

/-- The two sequences one after the other. -/
def append : Command → Command → Command
  | nil, d => d
  | literal text rest, d => literal text (rest.append d)
  | interpolation inner rest, d => interpolation inner (rest.append d)

instance : Append Command := ⟨append⟩

/-- The number of literals and interpolations at the top. -/
def length : Command → Nat
  | nil => 0
  | literal _ rest => rest.length + 1
  | interpolation _ rest => rest.length + 1

/-- Whether the sequence is empty. -/
def isEmpty : Command → Bool
  | nil => true
  | literal _ _ => false
  | interpolation _ _ => false

/-- The text that writes the command: literals escaped, interpolations between `$(` and `)`. -/
def source : Command → Text
  | nil => []
  | literal text rest => escape text ++ rest.source
  | interpolation inner rest => '$' :: '(' :: inner.source ++ ')' :: rest.source

/-- The most interpolations that lie inside one another. -/
def depth : Command → Nat
  | nil => 0
  | literal _ rest => rest.depth
  | interpolation inner rest => max (inner.depth + 1) rest.depth

/-- The number of interpolations, the ones inside others included. -/
def interpolationCount : Command → Nat
  | nil => 0
  | literal _ rest => rest.interpolationCount
  | interpolation inner rest => 1 + inner.interpolationCount + rest.interpolationCount

@[simp] theorem nil_append (c : Command) : nil ++ c = c := rfl

@[simp] theorem literal_append (text : Text) (c d : Command) :
    literal text c ++ d = literal text (c ++ d) := rfl

@[simp] theorem interpolation_append (inner c d : Command) :
    interpolation inner c ++ d = interpolation inner (c ++ d) := rfl

@[simp] theorem append_nil (c : Command) : c ++ nil = c := by
  induction c with
  | nil => rfl
  | literal text rest ih => rw [literal_append, ih]
  | interpolation inner rest _ ih => rw [interpolation_append, ih]

/-- A sequence is empty exactly when it has no elements. -/
theorem isEmpty_iff (c : Command) : c.isEmpty = true ↔ c = nil := by
  cases c <;> simp [isEmpty]

end Command

end Subshell
