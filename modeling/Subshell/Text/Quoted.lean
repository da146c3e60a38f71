import Subshell.Text.Printable
/-!
Quoted texts, the form in which a text stands inside the written form of another value.

A text is put in single quotes, or in double quotes when it holds a single quote and no double
quote. Backslashes, the chosen quote, and the characters that are not printable are escaped.
-/

namespace Subshell.Text

/-- The `width` last hexadecimal digits of a number, in lower case. -/
def hexDigits : (width : Nat) → Nat → Text
  | 0, _ => []
  | width + 1, n => hexDigits width (n / 16) ++ [Nat.digitChar (n % 16)]

/-- The escape of a character that is not printable: two, four or eight hexadecimal digits,
whichever suffices. -/
def escapeCode (c : Char) : Text :=
  let n := c.toNat
  if n < 0x100 then '\\' :: 'x' :: hexDigits 2 n
  else if n < 0x10000 then '\\' :: 'u' :: hexDigits 4 n
  else '\\' :: 'U' :: hexDigits 8 n

/-- A character as it stands between two `quote`s. -/
def quoteChar (quote c : Char) : Text :=
  if c = quote ∨ c = '\\' then ['\\', c]
  else if c = '\n' then ['\\', 'n']
  else if c = '\r' then ['\\', 'r']
  else if c = '\t' then ['\\', 't']
  else if isPrintable c then [c]
  else escapeCode c

/-- The text in quotes. -/
def quoted (text : Text) : Text :=
  let quote := if '\'' ∈ text ∧ '"' ∉ text then '"' else '\''
  quote :: text.flatMap (quoteChar quote) ++ [quote]

end Subshell.Text
