import Workflow.Document.View

/-!
Declared inputs and outputs. Fields that a document left out are kept apart from given ones.
-/

namespace Workflow

inductive ValueType where
  | text
  | number
  | object
  | array
  | boolean
deriving DecidableEq, Repr

instance : Named ValueType where
  all := [.text, .number, .object, .array, .boolean]
  name
    | .text => "string"
    | .number => "number"
    | .object => "object"
    | .array => "array"
    | .boolean => "boolean"

/-- A declared default: a JSON value, or the value of another kind that a file of worker types may
have, such as a day or a set, by what is written for it. -/
inductive DefaultValue where
  | json (x : Json)
  | foreign (written : Json)
deriving DecidableEq, Repr

def DefaultValue.value : DefaultValue → Json
  | .json x => x
  | .foreign written => written

structure InputSchema where
  type? : Option ValueType
  required? : Option Bool
  description? : Option (Option String)
  default? : Option DefaultValue
deriving DecidableEq, Repr

namespace InputSchema

def isRequired (s : InputSchema) : Bool := s.required?.getD false

def hasDefault (s : InputSchema) : Bool := s.default?.isSome

def read : Reader InputSchema :=
  Reader.record "InputSchema" fun ms =>
    mk <$> Reader.given ms (.plain "type") (Reader.literal ValueType)
      <*> Reader.given ms (.plain "required") Reader.boolean
      <*> Reader.given ms (.plain "description") (Reader.nullable Reader.text)
      <*> Reader.given ms (.plain "default") (fun x => DefaultValue.json <$> Reader.any x)

def view (s : InputSchema) : View :=
  .record
    [View.fieldOf (.plain "type") .named s.type? (View.named ValueType.text),
      View.fieldOf (.plain "required") (fun b => .plain (.bool b)) s.required?
        (.plain (.bool false)),
      View.fieldOf (.plain "description") .text? s.description? (.plain .null),
      View.fieldOf (.plain "default") (fun d => .untyped d.value) s.default? (.plain .null)]
    []

def written (s : InputSchema) : InputSchema :=
  { s with default? := s.default?.map fun d => .json d.value.written }

end InputSchema

structure OutputSchema where
  type? : Option ValueType
  description? : Option (Option String)
deriving DecidableEq, Repr

namespace OutputSchema

def read : Reader OutputSchema :=
  Reader.record "OutputSchema" fun ms =>
    mk <$> Reader.given ms (.plain "type") (Reader.literal ValueType)
      <*> Reader.given ms (.plain "description") (Reader.nullable Reader.text)

def view (s : OutputSchema) : View :=
  .record
    [View.fieldOf (.plain "type") .named s.type? (View.named ValueType.text),
      View.fieldOf (.plain "description") .text? s.description? (.plain .null)]
    []

end OutputSchema

end Workflow
