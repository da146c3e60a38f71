import Subshell.Schema.Integer
import Subshell.Value.Basic
/-!
Reading values against a schema.

A reader makes something of a value or says how the value falls short. The parts of an object or
list are all read, and all their violations are collected in order, each with the path to its place.
-/

namespace Subshell.Schema

/-- Something read from a value, or all the violations met. -/
def Checked (α : Type) := Except (List Violation) α

namespace Checked

variable {α β : Type}

/-- A part that was read. -/
def ok (a : α) : Checked α := Except.ok a

/-- A value that falls short. -/
def fail (shortfall : Shortfall) : Checked α := Except.error [⟨[], shortfall⟩]

/-- What was read, changed by a function. -/
def map (f : α → β) : Checked α → Checked β
  | .ok a => .ok (f a)
  | .error violations => .error violations

/-- Both parts read, or the violations of both. -/
def both : Checked (α → β) → Checked α → Checked β
  | .ok f, .ok a => .ok (f a)
  | .ok _, .error later => .error later
  | .error violations, .ok _ => .error violations
  | .error violations, .error later => .error (violations ++ later)

/-- What follows from a part that was read. -/
def andThen (read : Checked α) (next : α → Checked β) : Checked β :=
  match read with
  | .ok a => next a
  | .error violations => .error violations

/-- The violations as seen from one step further out. -/
def under (step : PathStep) : Checked α → Checked α
  | .ok a => .ok a
  | .error violations => .error (violations.map fun v => { v with path := step :: v.path })

instance : Functor Checked where map := map

instance : Applicative Checked where
  pure := ok
  seq f a := both f (a ())

end Checked

/-- A reader of values. -/
abbrev Reader (α : Type) := Value → Checked α

variable {α : Type}

/-- A required field of an object. -/
def required (fields : List (Text × Value)) (name : Text) (read : Reader α) : Checked α :=
  (match fields.lookup name with
    | some value => read value
    | none => .fail .missing).under (.field name)

/-- A field of an object that has a default. -/
def withDefault (fields : List (Text × Value)) (name : Text) (default : α) (read : Reader α) :
    Checked α :=
  match fields.lookup name with
  | some value => (read value).under (.field name)
  | none => .ok default

/-- Nothing, or a value that is read. -/
def orNull (read : Reader α) : Reader (Option α)
  | .null => .ok none
  | value => (read value).map some

/-- A text. -/
def readText : Reader Text
  | .text text => .ok text
  | _ => .fail .notText

/-- The whole number that a finite float equals, if it is one. -/
def wholeOf? (x : Float) : Option Int :=
  let bits := x.toBits.toNat
  let b := Decimal.Binary.ofBits (bits % Nat.pow 2 63)
  let (num, den) := Decimal.scale b.mantissa b.exponent 0
  let whole : Int := (num / den : Nat)
  if num % den = 0 then some (if bits / Nat.pow 2 63 = 1 then -whole else whole) else none

/-- Where machine words end: the integers of a word lie from minus this number up to below it. -/
def wordBound : Int := Nat.pow 2 63

/-- The integer that a float equals. It has to lie strictly between the bounds of a word. -/
def integerOfFloat (x : Float) : Except Shortfall Int :=
  if x.isNaN || x.isInf then .error .notFinite
  else match wholeOf? x with
    | none => .error .fractionalInteger
    | some n => if -wordBound < n ∧ n < wordBound then .ok n else .error .tooLongInteger

/-- What was read, or the one shortfall met. -/
def Checked.ofExcept : Except Shortfall α → Checked α
  | .ok a => .ok a
  | .error shortfall => .fail shortfall

/-- An integer: a number without a fraction, a truth value as one or zero, or a text. -/
def readInteger : Reader Int
  | .int n => .ok n
  | .bool b => .ok (if b then 1 else 0)
  | .float x => .ofExcept (integerOfFloat x)
  | .text text => .ofExcept (integerOf text)
  | _ => .fail .notInteger

/-- An integer above zero. -/
def readPositive : Reader Int := fun value =>
  (readInteger value).andThen fun n => if 0 < n then .ok n else .fail .notPositive

/-- An integer not below zero. -/
def readNatural : Reader Int := fun value =>
  (readInteger value).andThen fun n => if 0 ≤ n then .ok n else .fail .negative

/-- The words for true. -/
def trueWords : List Text := ["1", "on", "t", "true", "y", "yes"]

/-- The words for false. -/
def falseWords : List Text := ["0", "off", "f", "false", "n", "no"]

/-- The truth value of an integer: one or zero. -/
def boolOfInt (n : Int) : Checked Bool :=
  if n = 1 then .ok true else if n = 0 then .ok false else .fail .unreadableBoolean

/-- A truth value: also one or zero, or a word in whatever letter case. A number that no machine
word holds is not looked at. -/
def readBoolean : Reader Bool
  | .bool b => .ok b
  | .int n => if -wordBound ≤ n ∧ n < wordBound then boolOfInt n else .fail .notBoolean
  | .float x =>
    match integerOfFloat x with
    | .ok n => boolOfInt n
    | .error _ => .fail .notBoolean
  | .text text =>
    let word := text.map Char.toLower
    if word ∈ trueWords then .ok true
    else if word ∈ falseWords then .ok false
    else .fail .unreadableBoolean
  | _ => .fail .notBoolean

/-- One of the allowed texts. -/
def readAmong (allowed : List Text) : Reader Text
  | .text text => if text ∈ allowed then .ok text else .fail (.notAmong allowed)
  | _ => .fail (.notAmong allowed)

/-- Items read in order, the first one at place `index`. -/
def readItems (read : Reader α) (index : Nat) : List Value → Checked (List α)
  | [] => .ok []
  | item :: rest =>
    ((read item).under (.index index)).map List.cons |>.both (readItems read (index + 1) rest)

/-- A list. -/
def readList (read : Reader α) : Reader (List α)
  | .list items => readItems read 0 items
  | _ => .fail .notList

/-- An object whose fields may be anything. -/
def readDictionary : Reader (List (Text × Value))
  | .object fields => .ok fields
  | _ => .fail .notDictionary

/-- The fields of an object that a model is read from. -/
def readModel (name : Text) (read : List (Text × Value) → Checked α) : Reader α
  | .object fields => read fields
  | _ => .fail (.notModel name)

end Subshell.Schema
