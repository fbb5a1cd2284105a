import Workflow.Json.Path

/-!
Edge mappings: for each input of the target, the path of its value in the source's output.
-/

namespace Workflow

abbrev Mapping := Keyed String

namespace Mapping

open Json (BadIndex)

def apply (output : Json) : Mapping → Except BadIndex (Keyed Json)
  | [] => .ok []
  | (name, path) :: rest => do
    let value ← output.resolveOutput path
    let others ← apply output rest
    return (name, value) :: others

def instanceInput (element : Json) (mapping : Mapping) : Except BadIndex Json :=
  if mapping.isEmpty then .ok element else return .obj (← apply element mapping)

end Mapping

end Workflow
