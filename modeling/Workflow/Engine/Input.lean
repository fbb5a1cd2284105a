import Workflow.Failure
import Workflow.Plan.Basic
import Workflow.Run.Basic

/-!
Whether the sources of a node are done, and the input that they give it.
-/

namespace Workflow

namespace Failure

def ofMissing {α : Type} (r : Except String α) : Except Failure α := r.mapError .noEntry

def ofPath {α : Type} (r : Except Json.BadIndex α) : Except Failure α :=
  r.mapError fun b => .badIndex b.segment b.fault

end Failure

namespace Engine

def instanceTexts (r : Run) (template : String) : List String :=
  (r.instanceKeys template).map (·.text)

/-- A source that was fanned out is done once all its instances are terminal. Another source is done
when it is completed, or failed where that is accepted. -/
def isSourceDone (r : Run) (source : String) (acceptFailed : Bool) : Except Failure Bool :=
  if r.hasInstances source then Failure.ofMissing (r.allTerminal (instanceTexts r source))
  else
    match r.state? source with
    | some s => .ok (s.status == .completed || acceptFailed && s.status == .failed)
    | none => .ok false

def allSourcesDone (r : Run) (acceptFailed : Bool) : List String → Except Failure Bool
  | [] => .ok true
  | source :: rest => do
    if ← isSourceDone r source acceptFailed then allSourcesDone r acceptFailed rest
    else return false

def isReady (p : Plan) (r : Run) (id : String) : Except Failure Bool :=
  allSourcesDone r ((p.node? id).any fun n => n.kind == .collector) (p.parents id)

def completedOutputs (r : Run) (template : String) : Except Failure (List Json) := do
  let states ← Failure.ofMissing ((instanceTexts r template).mapM r.stateAt)
  return (states.filter fun s => s.status == .completed).map (·.output)

def mapEach (outputs : List Json) : Mapping → Except Failure (Keyed Json)
  | [] => .ok []
  | (name, path) :: rest => do
    let values ← Failure.ofPath (outputs.mapM fun o => o.resolveOutput path)
    return (name, .arr values) :: (← mapEach outputs rest)

/-- What one source gives: through the mapping of its edge, or, without one, the members of its
output, or the output under the source's id. -/
def contribution (r : Run) (source : String) (mapping : Mapping) : Except Failure (Keyed Json) :=
  if r.hasInstances source then do
    let outputs ← completedOutputs r source
    if mapping.isEmpty then return [(source, .arr outputs)] else mapEach outputs mapping
  else
    match r.state? source with
    | none => .ok []
    | some s =>
      if s.status ≠ .completed then .ok []
      else if !mapping.isEmpty then Failure.ofPath (mapping.apply s.output)
      else
        match s.output with
        | .obj members => .ok members
        | other => .ok [(source, other)]

def mergeFrom (p : Plan) (r : Run) (id : String) (merged : Keyed Json) :
    List String → Except Failure (Keyed Json)
  | [] => .ok merged
  | source :: rest => do
    let given ← contribution r source (p.mappingFor source id)
    mergeFrom p r id (Keyed.merge merged given) rest

def mergedInput (p : Plan) (r : Run) (id : String) : Except Failure (Keyed Json) :=
  mergeFrom p r id [] (p.parents id)

def addDefault (members : Keyed Json) (input : String × InputSchema) : Keyed Json :=
  match input.2.default? with
  | some d => if Keyed.has members input.1 then members else Keyed.set members input.1 d.value
  | none => members

def withDefaults (inputs : Keyed InputSchema) : Json → Json
  | .obj members => .obj (inputs.foldl addDefault members)
  | other => other

def nodeInput (p : Plan) (r : Run) (n : PlanNode) : Except Failure Json := do
  let members ←
    if p.entryNodes.contains n.id then .ok (r.trigger.payload.getD [])
    else mergedInput p r n.id
  return withDefaults n.inputs (.obj members)

end Engine

end Workflow
