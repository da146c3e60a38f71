import Subshell.Text.Casing
/-!
Levels of the log, by name and by number.

Eight names are known, two pairs of which mean the same number. A number without a name of its own
is shown as `Level` and the number.
-/

namespace Subshell

/-- The known names of levels. -/
inductive LevelName
  | critical
  | fatal
  | error
  | warning
  | warn
  | info
  | debug
  | notset
  deriving DecidableEq, Repr

namespace LevelName

/-- All names. -/
def all : List LevelName := [critical, fatal, error, warning, warn, info, debug, notset]

/-- The spelling of a name. -/
def text : LevelName → Text
  | critical => "CRITICAL"
  | fatal => "FATAL"
  | error => "ERROR"
  | warning => "WARNING"
  | warn => "WARN"
  | info => "INFO"
  | debug => "DEBUG"
  | notset => "NOTSET"

/-- The number that a name stands for. -/
def number : LevelName → Int
  | critical => 50
  | fatal => 50
  | error => 40
  | warning => 30
  | warn => 30
  | info => 20
  | debug => 10
  | notset => 0

/-- The name that a text spells, in whatever letter case. -/
def ofText? (text : Text) : Option LevelName := all.find? (·.text = text.upper)

/-- A spelled name is found again. -/
theorem ofText?_text (name : LevelName) : ofText? name.text = some name := by
  cases name <;> decide +kernel

end LevelName

/-- How a level of a given number is shown. -/
def levelText (number : Int) : Text :=
  if number = 50 then "CRITICAL"
  else if number = 40 then "ERROR"
  else if number = 30 then "WARNING"
  else if number = 20 then "INFO"
  else if number = 10 then "DEBUG"
  else if number = 0 then "NOTSET"
  else "Level ".toList ++ Text.ofInt number

end Subshell
