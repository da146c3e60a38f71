import Subshell.Command.Reading
import Subshell.Log.Level
import Subshell.Schema.Reader
/-!
Settings of a shell.

Settings are read from a value by their schema. The environment gives such a value: each variable
that is set is decoded to the value of one field, and the fields of the others keep their defaults.
-/

namespace Subshell

/-- What a shell can be told: how deep commands may nest, what joins the replies of a command,
whether an empty result is left unanswered, and from which level on the log is written. -/
structure Settings where
  limit : Option Nat := some defaultLimit
  separator : Text := [' ']
  suppressEmpty : Bool := true
  level : LevelName := .info
  deriving DecidableEq, Repr, Inhabited

namespace Settings

/-- The name of the depth limit in a settings object. -/
def limitField : Text := "max_depth"

/-- The name of the separator in a settings object. -/
def separatorField : Text := "reply_separator"

/-- The name of the suppression flag in a settings object. -/
def suppressField : Text := "suppress_empty_replies"

/-- The name of the log level in a settings object. -/
def levelField : Text := "log_level"

/-- A level of the log by its name. -/
def readLevel : Schema.Reader LevelName := fun value =>
  (Schema.readText value).andThen fun given =>
    match LevelName.ofText? given with
    | some name => .ok name
    | none => .fail (.unknownLevel given)

/-- Settings from the fields of an object. -/
def ofFields (fields : List (Text × Value)) : Schema.Checked Settings :=
  Settings.mk
    <$> Schema.withDefault fields limitField (some defaultLimit)
      (Schema.orNull fun value => (Schema.readPositive value).map Int.toNat)
    <*> Schema.withDefault fields separatorField [' '] Schema.readText
    <*> Schema.withDefault fields suppressField true Schema.readBoolean
    <*> Schema.withDefault fields levelField .info readLevel

/-- Settings from a value. -/
def read : Schema.Reader Settings := Schema.readModel "ShellConfig" ofFields

/-- The fields of a settings object. -/
def fields (settings : Settings) : List (Text × Value) :=
  [(limitField, match settings.limit with
      | some limit => .int limit
      | none => .null),
    (separatorField, .text settings.separator),
    (suppressField, .bool settings.suppressEmpty),
    (levelField, .text settings.level.text)]

/-- Settings from the fields of an object, or the fault that lists all violations. -/
def ofFields? (fields : List (Text × Value)) : Except Fault Settings :=
  Except.mapError Fault.invalid (ofFields fields)

end Settings

/-- The environment of a process: variables and their texts. -/
abbrev Environment := List (Text × Text)

namespace Environment

/-- The variable of the depth limit. -/
def limitVariable : Text := "CMDSHELL_MAX_DEPTH"

/-- The variable of the separator. -/
def separatorVariable : Text := "CMDSHELL_REPLY_SEPARATOR"

/-- The variable of the suppression flag. -/
def suppressVariable : Text := "CMDSHELL_SUPPRESS_EMPTY"

/-- The variable of the log level. -/
def levelVariable : Text := "CMDSHELL_LOG_LEVEL"

/-- The words that turn the depth limit off. -/
def noLimitWords : List Text := ["", "0", "none", "off", "unlimited"]

/-- The words that turn suppression off. -/
def falseWords : List Text := ["0", "false", "no", "off"]

/-- A word of the environment: blanks at its ends and its letter case do not count. -/
def word (text : Text) : Text := (Text.strip text).lower

/-- The depth limit that a text gives: none, or an integer. -/
def limitOf (text : Text) : Except Fault Value :=
  if word text ∈ noLimitWords then .ok .null
  else
    match Text.readInt (word text) with
    | .ok n => .ok (.int n)
    | .error fault => .error (.numeral (word text) fault)

/-- The field that a variable gives, if it is set. -/
def fieldOf (environment : Environment) (variableName field : Text)
    (decode : Text → Except Fault Value) : Except Fault (List (Text × Value)) :=
  match environment.lookup variableName with
  | none => .ok []
  | some text => (decode text).map fun value => [(field, value)]

/-- The fields of a settings object that the environment gives. -/
def settingsFields (environment : Environment) : Except Fault (List (Text × Value)) := do
  let limit ← environment.fieldOf limitVariable Settings.limitField limitOf
  let separator ← environment.fieldOf separatorVariable Settings.separatorField (.ok ∘ .text)
  let suppress ← environment.fieldOf suppressVariable Settings.suppressField
    fun text => .ok (.bool (word text ∉ falseWords))
  let level ← environment.fieldOf levelVariable Settings.levelField (.ok ∘ .text)
  return limit ++ separator ++ suppress ++ level

/-- The settings that the environment gives; the log is told the values before they are checked. -/
def settings {σ : Type} (environment : Environment) : Run σ Settings := do
  let fields ← Run.ofExcept environment.settingsFields
  Run.note (.environmentRead (.object fields))
  Run.ofExcept (Settings.ofFields? fields)

end Environment

end Subshell
