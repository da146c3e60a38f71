import Subshell.Schema.Violation
import Subshell.Text.Words
/-!
Integers in texts, as a schema accepts them.

A plain numeral is an optional minus sign and then a zero alone or digits that begin with none. A
text that is no plain numeral is cleaned and looked at once more: white space around it is ignored,
a plus sign may come first, zeros at the front and a point followed by zeros at the end are dropped,
and single underscores may stand between digits. The digits are the ten of ASCII. `integerOf` tells
a numeral that is too long from a text that is no numeral, though only if it does not need cleaning.
-/

namespace Subshell.Schema

/-- The text without a plus sign at the front; `none` when a minus sign follows it. -/
def dropPlus : Text → Option Text
  | '+' :: '-' :: _ => none
  | '+' :: rest => some rest
  | text => some text

/-- What follows zeros and underscores at the front: from the first other digit on, or from the last
character on when there is none. A zero in front of a point stays. -/
def skipZeros (last : Char) : Text → Option Text
  | [] => some [last]
  | c :: rest =>
    if c = '0' ∨ c = '_' then skipZeros c rest
    else if c.isDigit ∨ c = '-' then some (c :: rest)
    else if c = '.' then some (last :: c :: rest)
    else none

/-- The text without zeros at the front; `none` for a text that cannot begin a numeral. -/
def dropZeros : Text → Option Text
  | [] => none
  | c :: rest =>
    if c = '0' then skipZeros '0' rest
    else if c.isDigit ∨ c = '-' then some (c :: rest)
    else none

/-- The text without a point that zeros follow up to the end, at least one of them. -/
def dropFraction (text : Text) : Text :=
  let whole := text.takeWhile (· != '.')
  match text.drop whole.length with
  | _ :: zero :: zeros => if (zero :: zeros).all (· == '0') then whole else text
  | _ => text

/-- Whether two underscores stand next to each other. -/
def hasDoubleUnderscore : Text → Bool
  | '_' :: '_' :: _ => true
  | _ :: rest => hasDoubleUnderscore rest
  | [] => false

/-- The text without its underscores, if each stands between two other characters. -/
def dropUnderscores (text : Text) : Text :=
  if text.head? = some '_' ∨ text.getLast? = some '_' ∨ hasDoubleUnderscore text then text
  else text.filter (· != '_')

/-- The text without what may surround and join the digits of a numeral; `none` for a text that
cannot begin one. A minus sign stays in front. -/
def cleaned? (text : Text) : Option Text := do
  match ← dropPlus (Text.trim text) with
  | '-' :: rest => return '-' :: dropUnderscores (dropFraction (← dropZeros rest))
  | rest => return dropUnderscores (dropFraction (← dropZeros rest))

/-- The number that digits write. -/
def numberOf (digits : Text) : Nat :=
  digits.foldl (fun n c => 10 * n + (c.toNat - '0'.toNat)) 0

/-- The number that a text writes as a zero alone or as digits that begin with none. More than
`longest` digits are too long, whatever follows them. -/
def naturalOf (longest : Nat) (text : Text) : Except Shortfall Nat :=
  let digits := text.takeWhile Char.isDigit
  match digits with
  | [] => .error .unreadableInteger
  -- a zero stands alone
  | '0' :: _ => if text = ['0'] then .ok 0 else .error .unreadableInteger
  | _ =>
    if longest < digits.length then .error .tooLongInteger
    else if digits = text then .ok (numberOf digits)
    else .error .unreadableInteger

/-- The greatest length of a plain numeral, its minus sign included. -/
def maxIntegerLength : Nat := 4300

/-- The integer that a text writes as a plain numeral. -/
def plainIntegerOf : Text → Except Shortfall Int
  | '-' :: digits => (naturalOf (maxIntegerLength - 1) digits).map fun n => -(n : Int)
  | digits => (naturalOf maxIntegerLength digits).map Int.ofNat

/-- The integer that a text writes, or how it falls short. Only a text that needs no cleaning is
found too long: a long numeral that does is as unreadable as any other text. -/
def integerOf (text : Text) : Except Shortfall Int :=
  match plainIntegerOf text with
  -- a numeral that is too long is not cleaned
  | .error .unreadableInteger =>
    match (cleaned? text).map plainIntegerOf with
    | some (.ok n) => .ok n
    | _ => .error .unreadableInteger
  | result => result

end Subshell.Schema
