/-!
# What can be wrong with a value that has to fit a model

An `Issue` says where and why; the reason is a `Fault`, which has a short code and a sentence.
-/

namespace QuotationPress

inductive Fault where
  | notString
  | notList
  | notObject
  | notRecord (model : String)
  | notAttributes
  | missing
  | notBool
  | unreadableBool
  | notInt
  | unreadableInt
  | intTooLong
  | fractionalInt
  | notFinite
  | notFloat
  | unreadableFloat
  | notMoment
  | unreadableMoment (detail : String)
  | impossibleMoment (detail : String)
  | tooShort (least : Nat)
  | tooLong (most : Nat)
  | tooFewItems (least : Nat)
  | below (least : Int)
  | above (most : Int)
  | notChoice (choices : List String)
  | refused (reason : String)
  deriving Repr, DecidableEq

namespace Fault

def code : Fault → String
  | notString => "string_type"
  | notList => "list_type"
  | notObject => "dict_type"
  | notRecord _ => "model_type"
  | notAttributes => "model_attributes_type"
  | missing => "missing"
  | notBool => "bool_type"
  | unreadableBool => "bool_parsing"
  | notInt => "int_type"
  | unreadableInt => "int_parsing"
  | intTooLong => "int_parsing_size"
  | fractionalInt => "int_from_float"
  | notFinite => "finite_number"
  | notFloat => "float_type"
  | unreadableFloat => "float_parsing"
  | notMoment => "datetime_type"
  | unreadableMoment _ => "datetime_from_date_parsing"
  | impossibleMoment _ => "datetime_parsing"
  | tooShort _ => "string_too_short"
  | tooLong _ => "string_too_long"
  | tooFewItems _ => "too_short"
  | below _ => "greater_than_equal"
  | above _ => "less_than_equal"
  | notChoice _ => "literal_error"
  | refused _ => "value_error"

/-- A number and a noun in the plural unless the number is one. -/
def counted (n : Nat) (noun : String) : String :=
  toString n ++ " " ++ noun ++ (if n = 1 then "" else "s")

/-- Alternatives between single quotes, the last two joined by `or`. -/
def alternatives : List String → String
  | [] => ""
  | [a] => "'" ++ a ++ "'"
  | [a, b] => "'" ++ a ++ "' or '" ++ b ++ "'"
  | a :: rest => "'" ++ a ++ "', " ++ alternatives rest

def text : Fault → String
  | notString => "Input should be a valid string"
  | notList => "Input should be a valid list"
  | notObject => "Input should be a valid dictionary"
  | notRecord model => "Input should be a valid dictionary or instance of " ++ model
  | notAttributes => "Input should be a valid dictionary or object to extract fields from"
  | missing => "Field required"
  | notBool => "Input should be a valid boolean"
  | unreadableBool => "Input should be a valid boolean, unable to interpret input"
  | notInt => "Input should be a valid integer"
  | unreadableInt => "Input should be a valid integer, unable to parse string as an integer"
  | intTooLong => "Unable to parse input string as an integer, exceeded maximum size"
  | fractionalInt => "Input should be a valid integer, got a number with a fractional part"
  | notFinite => "Input should be a finite number"
  | notFloat => "Input should be a valid number"
  | unreadableFloat => "Input should be a valid number, unable to parse string as a number"
  | notMoment => "Input should be a valid datetime"
  | unreadableMoment detail => "Input should be a valid datetime or date, " ++ detail
  | impossibleMoment detail => "Input should be a valid datetime, " ++ detail
  | tooShort least => "String should have at least " ++ counted least "character"
  | tooLong most => "String should have at most " ++ counted most "character"
  | tooFewItems least =>
    "List should have at least " ++ counted least "item" ++ " after validation, not 0"
  | below least => "Input should be greater than or equal to " ++ toString least
  | above most => "Input should be less than or equal to " ++ toString most
  | notChoice choices => "Input should be " ++ alternatives choices
  | refused reason => "Value error, " ++ reason

end Fault

/-- The path leads from the whole value to the part that does not fit. -/
structure Issue where
  path : List String
  fault : Fault
  deriving Repr, DecidableEq

namespace Issue

def here (fault : Fault) : Issue := ⟨[], fault⟩

def under (name : String) (i : Issue) : Issue := { i with path := name :: i.path }

end Issue

end QuotationPress
