import Subshell.Value.Basic
/-!
Values laid out as data, one item or field to a line.

Lines are indented by two spaces for each level. Texts stand in double quotes and hold ASCII only:
a character beyond it is written as one or two four-digit escapes, its units in UTF-16.
-/

namespace Subshell.Value

/-- A four-digit escape. -/
def unitEscape (n : Nat) : Text := '\\' :: 'u' :: Text.hexDigits 4 n

/-- A character between double quotes. -/
def laidOutChar (c : Char) : Text :=
  let n := c.toNat
  if c = '"' ∨ c = '\\' then ['\\', c]
  else if c = '\n' then ['\\', 'n']
  else if c = '\r' then ['\\', 'r']
  else if c = '\t' then ['\\', 't']
  else if n = 8 then ['\\', 'b']
  else if n = 12 then ['\\', 'f']
  else if 0x20 ≤ n ∧ n < 0x7f then [c]
  else if n < 0x10000 then unitEscape n
  else unitEscape (0xd800 + (n - 0x10000) / 0x400) ++ unitEscape (0xdc00 + (n - 0x10000) % 0x400)

/-- A text in double quotes. -/
def laidOutText (text : Text) : Text := '"' :: text.flatMap laidOutChar ++ ['"']

/-- A float, with the names that data give to what is no number or not finite. -/
def laidOutFloat (x : Float) : Text :=
  if x.isNaN then "NaN"
  else if x.isInf then (if x < 0 then "-Infinity" else "Infinity")
  else floatText x

/-- A line break and the indentation of a level. -/
def lineBreak (level : Nat) : Text := '\n' :: List.replicate (2 * level) ' '

/-- Parts on lines of their own between brackets. -/
def bracketed (left right : Char) (level : Nat) (parts : List Text) : Text :=
  if parts.isEmpty then [left, right]
  else
    left :: lineBreak (level + 1) ++ Text.join (',' :: lineBreak (level + 1)) parts ++
      lineBreak level ++ [right]

/-- A value laid out at an indentation level. -/
def laidOut (level : Nat) : Value → Text
  | null => "null"
  | bool true => "true"
  | bool false => "false"
  | int n => Text.ofInt n
  | float x => laidOutFloat x
  | text t => laidOutText t
  | list items => bracketed '[' ']' level (laidOutItems (level + 1) items)
  | object fields => bracketed '\x7b' '\x7d' level (laidOutFields (level + 1) fields)
where
  /-- The items of a list, laid out. -/
  laidOutItems (level : Nat) : List Value → List Text
    | [] => []
    | item :: rest => laidOut level item :: laidOutItems level rest
  /-- The fields of an object, laid out. -/
  laidOutFields (level : Nat) : List (Text × Value) → List Text
    | [] => []
    | (name, value) :: rest =>
      (laidOutText name ++ ": " ++ laidOut level value) :: laidOutFields level rest
termination_by structural v => v

end Subshell.Value
