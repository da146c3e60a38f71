import Subshell.Text.Numeral
import Subshell.Text.Quoted
import Subshell.Decimal.Shortest
/-!
Dynamic values, and their written form.

A value is what a data file or a careless callback may hand over: nothing, a truth value, a number,
a text, a list or an object whose fields keep their order. `written` is the form in which a message
shows a value, with texts in quotes. It is the form of a value that can be written (`isWritable`).
-/

namespace Subshell

/-- A dynamic value. -/
inductive Value
  | null
  | bool (b : Bool)
  | int (n : Int)
  | float (x : Float)
  | text (t : Text)
  | list (items : List Value)
  | object (fields : List (Text × Value))
  deriving Inhabited

namespace Value

/-- How many values lie inside one another, at most: one for a value without parts. -/
def height : Value → Nat
  | list items => itemsHeight items + 1
  | object fields => fieldsHeight fields + 1
  | _ => 1
where
  /-- The greatest height among the items of a list. -/
  itemsHeight : List Value → Nat
    | [] => 0
    | item :: rest => max item.height (itemsHeight rest)
  /-- The greatest height among the fields of an object. -/
  fieldsHeight : List (Text × Value) → Nat
    | [] => 0
    | (_, value) :: rest => max value.height (fieldsHeight rest)
termination_by structural v => v

/-- The name of a value's type. -/
def typeName : Value → Text
  | null => "NoneType"
  | bool _ => "bool"
  | int _ => "int"
  | float _ => "float"
  | text _ => "str"
  | list _ => "list"
  | object _ => "dict"

/-- Whether a value is a given text. -/
def isText (t : Text) : Value → Bool
  | text u => u = t
  | _ => false

/-- The digits of a number without the zeros that they end in. -/
def significant (digits : Nat) : Text :=
  ((Nat.toDigits 10 digits).reverse.dropWhile (· == '0')).reverse

/-- A decimal with a point, or with an exponent of at least two digits when the point would stand
more than sixteen places to the right of the first digit or five zeros to its left. -/
def decimalText (d : Decimal.Scientific) : Text :=
  let digits := significant d.digits
  let exponent := d.point - 1
  if -4 ≤ exponent ∧ exponent < 16 then
    if d.point ≤ 0 then "0." ++ List.replicate (-d.point).toNat '0' ++ digits
    else
      let whole := digits.take d.point.toNat
      let fraction := digits.drop d.point.toNat
      whole ++ List.replicate (d.point.toNat - whole.length) '0' ++ "." ++
        (if fraction.isEmpty then ['0'] else fraction)
  else
    let power := Text.ofNat exponent.natAbs
    digits.take 1 ++ (if digits.length ≤ 1 then [] else '.' :: digits.drop 1) ++ "e" ++
      (if exponent < 0 then "-" else "+") ++ (if power.length < 2 then '0' :: power else power)

/-- A float: the shortest decimal that reads back as it. -/
def floatText (x : Float) : Text :=
  let bits := x.toBits.toNat
  if x.isNaN then "nan"
  else
    let sign : Text := if bits / Nat.pow 2 63 = 1 then "-" else ""
    if x.isInf then sign ++ "inf"
    else if bits % Nat.pow 2 63 = 0 then sign ++ "0.0"
    else sign ++ decimalText (Decimal.shortest (Decimal.Binary.ofBits (bits % Nat.pow 2 63)))

/-- The parts with a comma and a space between them. -/
def commaSeparated (parts : List Text) : Text := Text.join ", " parts

/-- The written form of a value. -/
def written : Value → Text
  | null => "None"
  | bool true => "True"
  | bool false => "False"
  | int n => Text.ofInt n
  | float x => floatText x
  | text t => Text.quoted t
  | list items => "[" ++ commaSeparated (writtenItems items) ++ "]"
  | object fields => "\x7b" ++ commaSeparated (writtenFields fields) ++ "\x7d"
where
  /-- The written forms of the items of a list. -/
  writtenItems : List Value → List Text
    | [] => []
    | item :: rest => item.written :: writtenItems rest
  /-- The written forms of the fields of an object. -/
  writtenFields : List (Text × Value) → List Text
    | [] => []
    | (name, value) :: rest =>
      (Text.quoted name ++ ": " ++ value.written) :: writtenFields rest
termination_by structural v => v

/-- Whether a value can be written: every integer in it has few enough digits. -/
def isWritable : Value → Bool
  | int n => Text.fits n
  | list items => itemsWritable items
  | object fields => fieldsWritable fields
  | _ => true
where
  /-- Whether all items of a list can be written. -/
  itemsWritable : List Value → Bool
    | [] => true
    | item :: rest => item.isWritable && itemsWritable rest
  /-- Whether the values of all fields of an object can be written. -/
  fieldsWritable : List (Text × Value) → Bool
    | [] => true
    | (_, value) :: rest => value.isWritable && fieldsWritable rest
termination_by structural v => v

/-- An object can be written when the values of its fields can. -/
theorem isWritable_object_iff {fields : List (Text × Value)} :
    (object fields).isWritable = true ↔ ∀ field ∈ fields, field.2.isWritable = true := by
  show isWritable.fieldsWritable fields = true ↔ _
  induction fields with
  | nil => simp [isWritable.fieldsWritable]
  | cons field fields ih =>
    rw [isWritable.fieldsWritable, Bool.and_eq_true, ih, List.forall_mem_cons]

end Value

end Subshell
