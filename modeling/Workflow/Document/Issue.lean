/-!
What is wrong with the shape of a document: a cause, at a path of members and items.
-/

namespace Workflow

inductive Step where
  | member (name : String)
  | item (index : Nat)
deriving DecidableEq, Repr

inductive Issue.Cause where
  | missing
  | notText
  | notRecord (name : String)
  | notMapping
  | notList
  | notEnumerated (names : List String)
  | notLiteral (names : List String)
  | notNumber
  | unreadableNumber
  | notPositive
  | notInteger
  | unreadableInteger
  | fractionalInteger
  | notFinite
  | oversizedInteger
  | notBoolean
  | unreadableBoolean
  | notPath
  | notInstant
  | emptyId
deriving DecidableEq, Repr

structure Issue where
  path : List Step
  cause : Issue.Cause
deriving DecidableEq, Repr

namespace Issue

def under (step : Step) (i : Issue) : Issue := { i with path := step :: i.path }

def alternatives : List String → String
  | [] => ""
  | [a] => s!"'{a}'"
  | [a, b] => s!"'{a}' or '{b}'"
  | a :: rest => s!"'{a}', {alternatives rest}"

namespace Cause

def code : Cause → String
  | .missing => "missing"
  | .notText => "string_type"
  | .notRecord _ => "model_type"
  | .notMapping => "dict_type"
  | .notList => "list_type"
  | .notEnumerated _ => "enum"
  | .notLiteral _ => "literal_error"
  | .notNumber => "float_type"
  | .unreadableNumber => "float_parsing"
  | .notPositive => "greater_than"
  | .notInteger => "int_type"
  | .unreadableInteger => "int_parsing"
  | .fractionalInteger => "int_from_float"
  | .notFinite => "finite_number"
  | .oversizedInteger => "int_parsing_size"
  | .notBoolean => "bool_type"
  | .unreadableBoolean => "bool_parsing"
  | .notPath => "path_type"
  | .notInstant => "datetime_type"
  | .emptyId => "value_error"

def message : Cause → String
  | .missing => "Field required"
  | .notText => "Input should be a valid string"
  | .notRecord name => s!"Input should be a valid dictionary or instance of {name}"
  | .notMapping => "Input should be a valid dictionary"
  | .notList => "Input should be a valid list"
  | .notEnumerated names | .notLiteral names => s!"Input should be {alternatives names}"
  | .notNumber => "Input should be a valid number"
  | .unreadableNumber => "Input should be a valid number, unable to parse string as a number"
  | .notPositive => "Input should be greater than 0"
  | .notInteger => "Input should be a valid integer"
  | .unreadableInteger => "Input should be a valid integer, unable to parse string as an integer"
  | .fractionalInteger => "Input should be a valid integer, got a number with a fractional part"
  | .notFinite => "Input should be a finite number"
  | .oversizedInteger => "Unable to parse input string as an integer, exceeded maximum size"
  | .notBoolean => "Input should be a valid boolean"
  | .unreadableBoolean => "Input should be a valid boolean, unable to interpret input"
  | .notPath => "Input is not a valid path for <class 'pathlib.Path'>"
  | .notInstant => "Input should be a valid datetime"
  | .emptyId => "Value error, Node id must be a non-empty string"

end Cause

end Issue

end Workflow
