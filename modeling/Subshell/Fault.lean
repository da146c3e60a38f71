import Subshell.Command.Parser
import Subshell.Schema.Violation
import Subshell.Text.Numeral
import Subshell.Value.Basic
/-!
Faults: everything that can stop a run.

A fault is kept as its cause, and `message` words it. Two faults of the engine itself carry the text
they are about: a malformed command and a command nested too deep. A fault of another kind carries
its class. `isFailure` tells failures, which are reported to the user, from interruptions, which end
the session: a failure is a fault whose class derives from `Exception`.
-/

namespace Subshell

/-- A malformed command: what is wrong with which text, and where. -/
structure SyntaxFault where
  summary : Text
  source : Text
  details : Text := []
  position : Option Int := none
  deriving DecidableEq, Repr

/-- Commands nested deeper than the limit, or deeper than the engine can follow. -/
structure DepthFault where
  source : Text
  limit : Option Int
  details : Text := []
  position : Option Int := none
  deriving DecidableEq, Repr

/-- A callback that broke its contract, or a tree with a foreign node. -/
structure EvaluationFault where
  summary : Text
  source : Text := []
  details : Text := []
  deriving DecidableEq, Repr

/-- Why a command is not registered. -/
inductive RegistrationFault
  | invalidName (name : Text)
  | taken (name : Text)
  /-- A refusal that a command itself reports. -/
  | reported (message : Text)
  deriving DecidableEq, Repr

/-- Why a file cannot be written. -/
inductive FileFault
  | isDirectory
  | notDirectory
  | alreadyExists
  | notFound
  /-- A name of more bytes than a directory can hold. -/
  | nameTooLong
  /-- A path that holds the null character. -/
  | nullCharacter
  /-- More missing directories inside one another than are made on the way to one. -/
  | tooNested
  deriving DecidableEq, Repr

/-- The class of a fault that a command or callback raises by itself. -/
structure FaultClass where
  name : Text
  /-- Whether the class derives from `Exception`. -/
  isException : Bool
  deriving DecidableEq, Repr

namespace FaultClass

/-- The names of the built-in classes that do not derive from `Exception`. -/
def interruptions : List Text :=
  ["BaseException", "BaseExceptionGroup", "GeneratorExit", "KeyboardInterrupt", "SystemExit"]

/-- The built-in class of a name. -/
def builtIn (name : Text) : FaultClass := ⟨name, !interruptions.contains name⟩

instance : Coe String FaultClass := ⟨fun name => builtIn name⟩

instance : CoeHead FaultClass Text := ⟨name⟩

end FaultClass

/-- What can stop a run. -/
inductive Fault
  | malformed (fault : SyntaxFault)
  | tooDeep (fault : DepthFault)
  | evaluation (fault : EvaluationFault)
  | registration (fault : RegistrationFault)
  | invalid (violations : List Violation)
  /-- A depth limit below one. -/
  | limitBelowOne
  /-- Something other than a text given to the parser. -/
  | notText
  /-- A text that should be an integer. -/
  | numeral (text : Text) (fault : NumeralFault)
  | file (fault : FileFault)
  /-- A single line that is asked for but not given. -/
  | vacantLine
  /-- Something that is asked of nothing. -/
  | absent (part : Text)
  /-- An index beyond the end of a list. -/
  | outOfRange
  /-- A value that nests too deep to be given out. -/
  | tooNested
  /-- An integer of too many digits to be written. -/
  | tooManyDigits
  /-- More nested calls than the engine follows. -/
  | exhausted
  /-- The end of the session by choice. -/
  | exit (code : Int)
  /-- A fault of another kind, raised by a command or callback. -/
  | other (kind : FaultClass) (message : Text)
  deriving DecidableEq, Repr

/-- The lines that say where a fault lies and what its details are. -/
def placeLines (position : Option Int) (details : Text) : Text :=
  (match position with
    | some p => "\nPosition: " ++ Text.ofInt p
    | none => []) ++
  if details.isEmpty then [] else "\nDetails: ".toList ++ details

/-- The message of a malformed command. -/
def SyntaxFault.message (fault : SyntaxFault) : Text :=
  fault.summary ++ "\nInput: '" ++ fault.source ++ "'" ++ placeLines fault.position fault.details

/-- What is wrong with a command nested too deep. -/
def DepthFault.summary (fault : DepthFault) : Text :=
  match fault.limit with
  | none => "Interpolation nesting exceeds the interpreter's recursion limit."
  | some limit => "Interpolation nesting exceeds maximum depth of " ++ Text.ofInt limit ++ "."

/-- The message of a command nested too deep. -/
def DepthFault.message (fault : DepthFault) : Text :=
  fault.summary ++ "\nInput: '" ++ fault.source ++ "'" ++ placeLines fault.position fault.details

/-- The message of a broken contract. -/
def EvaluationFault.message (fault : EvaluationFault) : Text :=
  fault.summary ++
    (if fault.source.isEmpty then [] else "\nCommand: '".toList ++ fault.source ++ ['\'']) ++
    if fault.details.isEmpty then [] else "\nDetails: ".toList ++ fault.details

/-- The message of a refused registration. -/
def RegistrationFault.message : RegistrationFault → Text
  | invalidName name => "Invalid command name: '" ++ name ++ "'"
  | taken name => "Command already registered: '" ++ name ++ "'"
  | reported message => message

/-- The name of a file fault. -/
def FileFault.typeName : FileFault → Text
  | isDirectory => "IsADirectoryError"
  | notDirectory => "NotADirectoryError"
  | alreadyExists => "FileExistsError"
  | notFound => "FileNotFoundError"
  | nameTooLong => "OSError"
  | nullCharacter => "ValueError"
  | tooNested => "RecursionError"

/-- The message of a file fault. What the operating system finds is not worded here. -/
def FileFault.message : FileFault → Text
  | nullCharacter => "embedded null byte"
  | tooNested => "maximum recursion depth exceeded"
  | _ => []

/-- The message of an integer of too many digits, with what is known about their number. -/
def digitsMessage (known : Text) : Text :=
  "Exceeds the limit (" ++ Text.ofNat Text.maxDigits ++
    " digits) for integer string conversion" ++ known ++
    "; use sys.set_int_max_str_digits() to increase the limit"

/-- The message of a text that is not an integer. Of the text, the first two hundred characters of
its quoted form are shown. -/
def NumeralFault.message (text : Text) : NumeralFault → Text
  | malformed =>
    "invalid literal for int() with base 10: " ++ (Text.quoted text).take 200
  | tooLong digits => digitsMessage (": value has " ++ Text.ofNat digits ++ " digits")

namespace Fault

/-- The name of a fault's kind. -/
def typeName : Fault → Text
  | malformed _ => "ShellSyntaxError"
  | tooDeep _ => "ShellDepthError"
  | evaluation _ => "ShellEvaluationError"
  | registration _ => "CommandRegistrationError"
  | invalid _ => "ValidationError"
  | limitBelowOne => "ValueError"
  | notText => "TypeError"
  | numeral _ _ => "ValueError"
  | file fault => fault.typeName
  | vacantLine => "AttributeError"
  | absent _ => "AttributeError"
  | outOfRange => "IndexError"
  | tooNested => "ValueError"
  | tooManyDigits => "ValueError"
  | exhausted => "RecursionError"
  | exit _ => "SystemExit"
  | other kind _ => kind

/-- The message of a fault. A missing key is shown in quotes. -/
def message : Fault → Text
  | malformed fault => fault.message
  | tooDeep fault => fault.message
  | evaluation fault => fault.message
  | registration fault => fault.message
  | invalid _ => []
  | limitBelowOne => "max_depth must be a positive integer or None."
  | notText => "Input must be a string."
  | numeral text fault => fault.message text
  | file fault => fault.message
  | vacantLine => "'list' object has no attribute 'strip'"
  | absent part => "'NoneType' object has no attribute '" ++ part ++ "'"
  | outOfRange => "list index out of range"
  | tooNested => "Circular reference detected (depth exceeded)"
  | tooManyDigits => digitsMessage []
  | exhausted => "maximum recursion depth exceeded"
  | exit code => Text.ofInt code
  | other kind message => if kind = "KeyError" then Text.quoted message else message

/-- What is there, if it is; a fault when `part` is asked of nothing. -/
def demand {α : Type} (part : Text) : Option α → Except Fault α
  | some a => .ok a
  | none => .error (.absent part)

/-- Whether a fault is the failure of a command, which is reported and ends only that command. -/
def isFailure : Fault → Bool
  | exit _ => false
  | other kind _ => kind.isException
  | _ => true

end Fault

/-- The written form of a value, if it can be written. -/
def Value.write (value : Value) : Except Fault Text :=
  if value.isWritable then .ok value.written else .error .tooManyDigits

/-- The form in which a value is shown on its own: a text as it is, all else as written. -/
def Value.shown : Value → Except Fault Text
  | .text t => .ok t
  | v => v.write

/-- What is wrong with a text that is no command. -/
def ParseCause.summary : ParseCause → Text
  | tooDeep => "Interpolation nesting exceeds the maximum depth."
  | unclosed => "Unmatched '$('."
  | stray => "Unmatched ')'."
  | dangling => "Dangling escape."

/-- The details of a fault in a text. -/
def ParseFault.details (fault : ParseFault) (text : Text) : Text :=
  match fault.cause with
  | .tooDeep => []
  | .unclosed =>
    "No closing ')' for interpolation starting at position " ++ Text.ofNat (fault.position text)
  | .stray => "Trailing content: '" ++ fault.rest ++ "'"
  | .dangling => "A trailing '\\' must be followed by the character it escapes"

/-- The fault of reading `text` with interpolations at most `limit` deep. -/
def ParseFault.toFault (fault : ParseFault) (limit : Option Nat) (text : Text) : Fault :=
  match fault.cause with
  | .tooDeep =>
    .tooDeep ⟨text, limit.map Int.ofNat, [], some (fault.position text)⟩
  | cause => .malformed ⟨cause.summary, text, fault.details text, some (fault.position text)⟩

end Subshell
