import Workflow.Canvas.Basic
import Workflow.Validation.Finding

/-!
Node ids that are used twice, and edges that end nowhere.
-/

namespace Workflow.Validation

def duplicateNode (id : String) (count : Nat) : Finding where
  problem := .duplicateNode
  message := s!"Node id \"{id}\" is used by {count} nodes"
  node := some id
  edge := none
  field := none

def danglingEdge (edge endName id : String) : Finding where
  problem := .danglingEdge
  message := s!"Edge \"{edge}\": {endName} \"{id}\" not found"
  node := some id
  edge := some edge
  field := none

def duplicateNodes (c : Canvas) : List Finding :=
  let ids := c.nodes.map (·.id)
  (ids.eraseDups.filter fun id => 1 < ids.count id).map fun id => duplicateNode id (ids.count id)

def danglingEnds (ids : List String) (e : CanvasEdge) : List Finding :=
  ([("source", e.source), ("target", e.target)].filter fun p => !ids.contains p.2).map fun p =>
    danglingEdge e.id p.1 p.2

def checkStructure (c : Canvas) : List Finding :=
  duplicateNodes c ++ c.edges.flatMap (danglingEnds (c.nodes.map (·.id)))

end Workflow.Validation
