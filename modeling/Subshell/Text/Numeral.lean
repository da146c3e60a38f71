import Subshell.Text.Digit
import Subshell.Text.Words
/-!
Integers written in decimal.

White space around the number is ignored. A sign may come first, then digits of any script, with
single underscores allowed between two digits. A numeral of more than `maxDigits` digits is refused,
and an integer of more digits is not written.
-/

namespace Subshell

/-- Why a text is not read as an integer. -/
inductive NumeralFault
  /-- The text is not a numeral. -/
  | malformed
  /-- The numeral has too many digits. -/
  | tooLong (digits : Nat)
  deriving DecidableEq, Repr

namespace Text

/-- The most digits that a numeral may have, whether it is read or written. -/
def maxDigits : Nat := 4300

/-- Whether an integer has few enough digits to be written. -/
def fits (n : Int) : Bool := (ofNat n.natAbs).length ≤ maxDigits

/-- The digits at the front of a text, after digits of value `value` and number `count`: the value
and number of all of them, and the rest. `needed` says that a digit has to come next, which is so at
the start and after an underscore; `none` when none does. -/
def scanDigits (value count : Nat) (needed : Bool) : Text → Option (Nat × Nat × Text)
  | [] => if needed then none else some (value, count, [])
  | c :: rest =>
    if c = '_' then
      if needed then none else scanDigits value count true rest
    else
      match digitValue? c with
      | some digit => scanDigits (10 * value + digit) (count + 1) false rest
      | none => if needed then none else some (value, count, c :: rest)

/-- The sign at the front of a text, as whether it is a minus, and the rest. -/
def scanSign : Text → Bool × Text
  | '-' :: rest => (true, rest)
  | '+' :: rest => (false, rest)
  | text => (false, text)

/-- The integer that a text writes. -/
def readInt (text : Text) : Except NumeralFault Int :=
  let (negative, digits) := scanSign (trim text)
  match scanDigits 0 0 true digits with
  | none => .error .malformed
  | some (value, count, rest) =>
    -- the length counts before anything that follows the digits
    if maxDigits < count then .error (.tooLong count)
    else if rest.isEmpty then .ok (if negative then -value else value)
    else .error .malformed

end Text

end Subshell
