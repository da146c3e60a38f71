import Subshell.Fault
import Subshell.Schema.Reader
/-!
Outcomes of handling a line.

A line completes with replies or fails for a reason. An outcome is given out as a report: a record
of content, status, replies and notes, where the notes name the command of the line and, for a
failure, describe it. Reports and failures can also be read from values, by their schemas, and are
given out as values again unless their notes nest too deep.
-/

namespace Subshell

/-- Why a line fails. -/
inductive Reason
  /-- Commands were nested too deep. -/
  | depthExceeded
  /-- A command failed. -/
  | commandFailure
  /-- The evaluation itself broke down. -/
  | unexpectedError
  deriving DecidableEq, Repr

/-- The name of a reason. -/
def Reason.text : Reason → Text
  | depthExceeded => "depth_exceeded"
  | commandFailure => "command_failure"
  | unexpectedError => "unexpected_error"

/-- What is known about a failure. -/
structure FailureDetails where
  failingCommand : Option Text := none
  position : Option Int := none
  limit : Option Int := none
  faultKind : Option Text := none
  notes : Option (List (Text × Value)) := none

/-- A failure: its reason, its message and what is known about it. -/
structure Failure where
  reason : Reason
  message : Text
  details : Option FailureDetails := none

/-- What came of a line. -/
structure Outcome where
  /-- The failure, if the line did not complete. -/
  failure : Option Failure := none
  /-- The joined replies, or the message of the failure. -/
  content : Text
  replies : List Text := []
  /-- The first word of the line. -/
  command : Text
  /-- Whether there is a command of that name. -/
  known : Bool

/-- Whether a line completed. -/
inductive Status
  | complete
  | failed
  deriving DecidableEq, Repr

/-- The name of a status. -/
def Status.text : Status → Text
  | complete => "COMPLETE"
  | failed => "FAILED"

/-- The record that is given out for a line. -/
structure Report where
  content : Text
  status : Status
  replies : List Text := []
  notes : List (Text × Value) := []

/-- A value that may be missing. -/
def Value.ofOption {α : Type} (value : α → Value) : Option α → Value
  | some a => value a
  | none => .null

/-- The fields that are not null, or all of them. -/
def keepFields (omitNull : Bool) (fields : List (Text × Value)) : List (Text × Value) :=
  if omitNull then
    fields.filter fun
      | (_, .null) => false
      | _ => true
  else fields

/-- The details of a failure as a value. -/
def FailureDetails.value (omitNull : Bool) (details : FailureDetails) : Value :=
  .object (keepFields omitNull
    [("failing_command", .ofOption .text details.failingCommand),
      ("position", .ofOption .int details.position),
      ("max_depth", .ofOption .int details.limit),
      ("exception_type", .ofOption .text details.faultKind),
      ("notes", .ofOption .object details.notes)])

/-- The type that a failure's value names. -/
def Failure.typeText : Text := "SHELL_FAILURE"

/-- A failure as a value. -/
def Failure.value (omitNull : Bool) (failure : Failure) : Value :=
  .object (keepFields omitNull
    [("type", .text Failure.typeText), ("reason", .text failure.reason.text),
      ("message", .text failure.message),
      ("details", .ofOption (·.value omitNull) failure.details)])

/-- A report as a value. -/
def Report.value (report : Report) : Value :=
  .object
    [("content", .text report.content), ("status", .text report.status.text),
      ("replies", .list (report.replies.map .text)), ("notes", .object report.notes)]

/-- The greatest height of a note that is given out. -/
def maxNoteHeight : Nat := 255

/-- The value of something with notes, which is given out unless a note nests too deep. -/
def givenOut (notes : List (Text × Value)) (value : Value) : Except Fault Value :=
  if notes.all fun note => note.2.height ≤ maxNoteHeight then .ok value else .error .tooNested

/-- The details of a failure as they are given out. -/
def FailureDetails.dump (omitNull : Bool) (details : FailureDetails) : Except Fault Value :=
  givenOut (details.notes.getD []) (details.value omitNull)

/-- A failure as it is given out. -/
def Failure.dump (omitNull : Bool) (failure : Failure) : Except Fault Value :=
  givenOut ((failure.details.bind (·.notes)).getD []) (failure.value omitNull)

/-- A report as it is given out. -/
def Report.dump (report : Report) : Except Fault Value := givenOut report.notes report.value

namespace Outcome

/-- Whether the line completed. -/
def status (outcome : Outcome) : Status :=
  if outcome.failure.isSome then .failed else .complete

/-- The notes of an outcome: the failure comes first, and the replies are counted only where there
is none. -/
def notes (outcome : Outcome) : List (Text × Value) :=
  let line : List (Text × Value) :=
    [("command", .text outcome.command), ("known_command", .bool outcome.known)]
  match outcome.failure with
  | some failure => ("error", failure.value true) :: line
  | none => line ++ [("reply_count".toList, Value.int outcome.replies.length)]

/-- The report of an outcome. -/
def report (outcome : Outcome) : Report :=
  ⟨outcome.content, outcome.status, outcome.replies, outcome.notes⟩

end Outcome

/-- Whether a report tells of a failure. -/
def Report.isError (report : Report) : Bool := report.status = .failed

/-- The details of a failure read from a value. -/
def FailureDetails.read : Schema.Reader FailureDetails :=
  Schema.readModel "ShellFailureDetails" fun fields =>
    FailureDetails.mk
      <$> Schema.withDefault fields "failing_command" none (Schema.orNull Schema.readText)
      <*> Schema.withDefault fields "position" none (Schema.orNull Schema.readNatural)
      <*> Schema.withDefault fields "max_depth" none (Schema.orNull Schema.readInteger)
      <*> Schema.withDefault fields "exception_type" none (Schema.orNull Schema.readText)
      <*> Schema.withDefault fields "notes" none (Schema.orNull Schema.readDictionary)

/-- The reasons in the order in which the schema lists them. -/
def Reason.all : List Reason := [depthExceeded, commandFailure, unexpectedError]

/-- A reason read from its name. -/
def Reason.read : Schema.Reader Reason := fun value =>
  (Schema.readAmong (Reason.all.map Reason.text) value).map fun name =>
    (Reason.all.find? (·.text = name)).getD .unexpectedError

/-- A status read from its name. -/
def Status.read : Schema.Reader Status := fun value =>
  (Schema.readAmong [Status.complete.text, Status.failed.text] value).map fun name =>
    if name = Status.complete.text then .complete else .failed

/-- A failure read from a value. -/
def Failure.read : Schema.Reader Failure :=
  Schema.readModel "ShellFailure" fun fields =>
    (fun _ => Failure.mk)
      <$> Schema.withDefault fields "type" Failure.typeText (Schema.readAmong [Failure.typeText])
      <*> Schema.required fields "reason" Reason.read
      <*> Schema.required fields "message" Schema.readText
      <*> Schema.withDefault fields "details" none (Schema.orNull FailureDetails.read)

/-- A report read from a value. -/
def Report.read : Schema.Reader Report :=
  Schema.readModel "ShellResult" fun fields =>
    Report.mk
      <$> Schema.required fields "content" Schema.readText
      <*> Schema.required fields "status" Status.read
      <*> Schema.withDefault fields "replies" [] (Schema.readList Schema.readText)
      <*> Schema.withDefault fields "notes" [] Schema.readDictionary

end Subshell
