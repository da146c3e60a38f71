import Subshell.Fault
import Subshell.Schema.Reader
/-!
Commands as values.

A command is an object with a list of children, each of them tagged as a literal or an
interpolation. `value` gives a command as such a value, and `read` makes a command of a value or
lists everything that is wrong with it. Only literals and interpolations are read as children, so
what is read is a command. Values are looked at down to a fixed nesting of interpolations, and a
command of a deeper nesting is not given out (`dump`).
-/

namespace Subshell.Command

/-- The name of the field that tags a node. -/
def kindField : Text := "kind"

/-- The tag of a command. -/
def commandKind : Text := "command"

/-- The tag of a literal. -/
def literalKind : Text := "literal"

/-- The tag of an interpolation. -/
def interpolationKind : Text := "interpolation"

/-- The tag of a node is checked where it is given; it need not be. -/
def checkKind (fields : List (Text × Value)) (kind : Text) : Schema.Checked Text :=
  Schema.withDefault fields kindField kind (Schema.readAmong [kind])

/-- The form in which a message shows the tag of a node. One that cannot be written is shown by its
type. -/
def tagText (tag : Value) : Text :=
  match tag.shown with
  | .ok text => text
  | .error _ => "<unprintable " ++ tag.typeName ++ " object>"

/-- The value of a field is smaller than the list of the fields. -/
theorem sizeOf_lt_of_lookup {fields : List (Text × Value)} {name : Text} {v : Value}
    (h : fields.lookup name = some v) : sizeOf v < sizeOf fields := by
  induction fields with
  | nil => simp at h
  | cons field rest ih =>
    obtain ⟨key, value⟩ := field
    rw [List.lookup_cons] at h
    simp only [List.cons.sizeOf_spec, Prod.mk.sizeOf_spec]
    split at h
    · cases h
      omega
    · have := ih h
      omega

/-- The most interpolations inside one another that are read from a value. -/
def maxReadDepth : Nat := 254

mutual

/-- A command from a value, with interpolations at most `room` deep. -/
def readWithin (room : Nat) (v : Value) : Schema.Checked Command :=
  match v with
  | .object fields =>
    (fun _ children => children)
      <$> checkKind fields commandKind
      <*> (match h : fields.lookup "children".toList with
        | none => .ok .nil
        | some value =>
          have := sizeOf_lt_of_lookup h
          (readTuple room value).under (.field "children"))
  | _ => .fail (.notModel "CommandNode")
termination_by (sizeOf v, 0)

/-- The children of a command from a value. -/
def readTuple (room : Nat) (v : Value) : Schema.Checked Command :=
  match v with
  | .list items => readChildren room 0 items
  | _ => .fail .notTuple
termination_by (sizeOf v, 0)

/-- A command from its children, the first of them at place `index`. -/
def readChildren (room index : Nat) (items : List Value) : Schema.Checked Command :=
  match items with
  | [] => .ok .nil
  | item :: rest =>
    (fun child children => child children)
      <$> (readChild room item).under (.index index)
      <*> readChildren room (index + 1) rest
termination_by (sizeOf items, 0)

/-- A child, as what it makes of a command when it is put in front. -/
def readChild (room : Nat) (v : Value) : Schema.Checked (Command → Command) :=
  match v with
  | .object fields =>
    match fields.lookup kindField with
    | none => .fail .tagMissing
    | some kind =>
      if kind.isText literalKind then
        ((Schema.required fields "text" Schema.readText).map literal).under (.field literalKind)
      else if kind.isText interpolationKind then
        ((readInner room fields).map interpolation).under (.field interpolationKind)
      else .fail (.tagUnknown (tagText kind) [literalKind, interpolationKind])
  | _ => .fail .notTagged
termination_by (sizeOf v, 0)

/-- The command inside an interpolation with these fields, when there is room for it. -/
def readInner (room : Nat) (fields : List (Text × Value)) : Schema.Checked Command :=
  Schema.Checked.under (.field "command") <|
    match h : fields.lookup "command".toList with
    | none => .fail .missing
    | some value =>
      have := sizeOf_lt_of_lookup h
      match room with
      | 0 => .fail .tooDeep
      | room + 1 => readWithin room value
termination_by (sizeOf fields, 1)

end

/-- A command from a value. -/
def read : Schema.Reader Command := readWithin maxReadDepth

/-- The text of a literal from a value. -/
def readLiteralNode : Schema.Reader Text :=
  Schema.readModel "LiteralNode" fun fields =>
    (fun _ text => text)
      <$> checkKind fields literalKind
      <*> Schema.required fields "text" Schema.readText

/-- The inner command of an interpolation from a value. -/
def readInterpolationNode : Schema.Reader Command :=
  Schema.readModel "InterpolationNode" fun fields =>
    (fun _ inner => inner) <$> checkKind fields interpolationKind <*> readInner maxReadDepth fields

/-- A literal as a value. -/
def literalValue (text : Text) : Value :=
  .object [(kindField, .text literalKind), ("text", .text text)]

/-- An interpolation as a value, given its command as a value. -/
def interpolationValue (command : Value) : Value :=
  .object [(kindField, .text interpolationKind), ("command", command)]

/-- A sequence as a value, given its children as values. -/
def sequenceValue (children : List Value) : Value :=
  .object [(kindField, .text commandKind), ("children", .list children)]

/-- The children of a command as values. -/
def childValues : Command → List Value
  | nil => []
  | literal text rest => literalValue text :: rest.childValues
  | interpolation inner rest =>
    interpolationValue (sequenceValue inner.childValues) :: rest.childValues

/-- A command as a value. -/
def value (command : Command) : Value := sequenceValue command.childValues

/-- A command as it is given out: as a value, unless it nests deeper than commands are read. -/
def dump (command : Command) : Except Fault Value :=
  if command.depth ≤ maxReadDepth then .ok command.value else .error .tooNested

theorem dump_of_le {command : Command} (h : command.depth ≤ maxReadDepth) :
    command.dump = .ok command.value := if_pos h

theorem dump_of_lt {command : Command} (h : maxReadDepth < command.depth) :
    command.dump = .error .tooNested := if_neg (Nat.not_le_of_gt h)

end Subshell.Command
