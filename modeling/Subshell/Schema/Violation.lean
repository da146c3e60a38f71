import Subshell.Text.Basic
/-!
Violations of a schema: where a value does not have the shape that is asked of it, and how.
-/

namespace Subshell

/-- One step on the way from a value to a part of it. -/
inductive PathStep
  | field (name : Text)
  | index (n : Nat)
  deriving DecidableEq, Repr

/-- How a value fails to have the shape asked of it. -/
inductive Shortfall
  | missing
  | notText
  | notInteger
  | unreadableInteger
  | tooLongInteger
  | fractionalInteger
  | notFinite
  | notPositive
  | negative
  | notBoolean
  | unreadableBoolean
  | notList
  | notTuple
  | notDictionary
  /-- The value of a model that is no object. -/
  | notModel (model : Text)
  /-- A tagged choice that is no object. -/
  | notTagged
  | tagMissing
  /-- A tag that names none of the choices `expected`. -/
  | tagUnknown (tag : Text) (expected : List Text)
  /-- A value other than the allowed ones. -/
  | notAmong (allowed : List Text)
  | unknownLevel (given : Text)
  /-- A value that lies too deep inside others to be looked at. -/
  | tooDeep
  deriving DecidableEq, Repr

/-- A shortfall and the place of the value that has it. -/
structure Violation where
  path : List PathStep
  shortfall : Shortfall
  deriving DecidableEq, Repr

namespace Shortfall

/-- The name of a kind of shortfall. -/
def typeName : Shortfall → Text
  | missing => "missing"
  | notText => "string_type"
  | notInteger => "int_type"
  | unreadableInteger => "int_parsing"
  | tooLongInteger => "int_parsing_size"
  | fractionalInteger => "int_from_float"
  | notFinite => "finite_number"
  | notPositive => "greater_than"
  | negative => "greater_than_equal"
  | notBoolean => "bool_type"
  | unreadableBoolean => "bool_parsing"
  | notList => "list_type"
  | notTuple => "tuple_type"
  | notDictionary => "dict_type"
  | notModel _ => "model_type"
  | notTagged => "model_attributes_type"
  | tagMissing => "union_tag_not_found"
  | tagUnknown _ _ => "union_tag_invalid"
  | notAmong _ => "literal_error"
  | unknownLevel _ => "value_error"
  | tooDeep => "recursion_loop"

/-- Texts in single quotes, as a list that ends in "or". -/
def alternatives : List Text → Text
  | [] => []
  | [last] => "'" ++ last ++ "'"
  | [first, last] => "'" ++ first ++ "' or '" ++ last ++ "'"
  | first :: rest => "'" ++ first ++ "', " ++ alternatives rest

/-- The message of a shortfall. -/
def message : Shortfall → Text
  | missing => "Field required"
  | notText => "Input should be a valid string"
  | notInteger => "Input should be a valid integer"
  | unreadableInteger => "Input should be a valid integer, unable to parse string as an integer"
  | tooLongInteger => "Unable to parse input string as an integer, exceeded maximum size"
  | fractionalInteger => "Input should be a valid integer, got a number with a fractional part"
  | notFinite => "Input should be a finite number"
  | notPositive => "Input should be greater than 0"
  | negative => "Input should be greater than or equal to 0"
  | notBoolean => "Input should be a valid boolean"
  | unreadableBoolean => "Input should be a valid boolean, unable to interpret input"
  | notList => "Input should be a valid list"
  | notTuple => "Input should be a valid tuple"
  | notDictionary => "Input should be a valid dictionary"
  | notModel model => "Input should be a valid dictionary or instance of " ++ model
  | notTagged => "Input should be a valid dictionary or object to extract fields from"
  | tagMissing => "Unable to extract tag using discriminator 'kind'"
  | tagUnknown tag expected =>
    "Input tag '" ++ tag ++ "' found using 'kind' does not match any of the expected tags: " ++
      Text.join ", " (expected.map fun name => "'" ++ name ++ "'")
  | notAmong allowed => "Input should be " ++ alternatives allowed
  | unknownLevel given => "Value error, Unknown log level: " ++ given
  | tooDeep => "Recursion error - cyclic reference detected"

end Shortfall

end Subshell
