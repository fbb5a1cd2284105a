import Workflow.Canvas.Basic
import Workflow.Validation.Finding

namespace Workflow.Validation

def strayMovement (node outcome target : String) : Finding where
  problem := .invalidMovement
  message :=
    s!"Node \"{node}\" moves entities to \"{target}\" {outcome}, " ++
      "which is not a Section node in this graph"
  node := some node
  edge := none
  field := some outcome

def sections (c : Canvas) : List String :=
  (c.nodes.filter fun n => n.kind = .frame).map (·.id)

def checkAction (sections : List String) (node outcome : String) :
    Option MovementAction → List Finding
  | none => []
  | some action =>
    if sections.contains action.targetSection then []
    else [strayMovement node outcome action.targetSection]

def checkNodeMovement (sections : List String) (n : CanvasNode) : List Finding :=
  match n.data.movements with
  | none => []
  | some m =>
    checkAction sections n.id "on_success" m.onSuccess ++
      checkAction sections n.id "on_failure" m.onFailure

def checkMovement (c : Canvas) : List Finding := c.nodes.flatMap (checkNodeMovement (sections c))

end Workflow.Validation
