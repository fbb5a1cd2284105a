import Workflow.Json.Basic
import Workflow.Text.Numeral
import Workflow.Text.Split

/-!
Dotted paths into JSON values: a segment is a member's name in an object and an index in a list.
-/

namespace Workflow.Json

structure BadIndex where
  segment : String
  fault : Text.NumeralFault
deriving DecidableEq, Repr

def child (x : Json) (segment : String) : Except BadIndex Json :=
  match x with
  | .obj members => .ok ((Keyed.find? members segment).getD .null)
  | .arr items =>
    if Text.isDigits segment.toList then
      match Text.numeral segment.toList with
      | .ok i => .ok (items[i]?.getD .null)
      | .error fault => .error ⟨segment, fault⟩
    else .ok .null
  | _ => .ok .null

def descend (x : Json) : List String → Except BadIndex Json
  | [] => .ok x
  | segment :: rest => do descend (← x.child segment) rest

def segments (path : String) : List String := Text.parts '.' path

def resolve (x : Json) (path : String) : Except BadIndex Json := x.descend (segments path)

def hasMember (x : Json) (name : String) : Bool :=
  match x with
  | .obj members => Keyed.has members name
  | _ => false

/-- The segments of a path into an output: a leading `output` with more behind it names the output
itself, unless the output has a member of that name. -/
def outputSegments (output : Json) (path : String) : List String :=
  match segments path with
  | "output" :: next :: rest =>
    if output.hasMember "output" then "output" :: next :: rest else next :: rest
  | parts => parts

def resolveOutput (output : Json) (path : String) : Except BadIndex Json :=
  output.descend (outputSegments output path)

end Workflow.Json
