import Workflow.Plan.Basic
import Workflow.Validation.Check

/-!
Compiling a canvas into a plan. A canvas with findings has no plan, not even in part.
-/

namespace Workflow

namespace PlanNode

def ofCanvas (catalogue : Catalogue) (n : CanvasNode) : PlanNode where
  id := n.id
  kind := n.kind
  workerType? := some n.data.workerType
  config? := some n.data.config
  inputs? := some (n.declaredInputs catalogue)
  outputs? := some (n.declaredOutputs catalogue)
  movements? := some n.data.movements

end PlanNode

namespace Plan

def compiledNodes (c : Canvas) (catalogue : Catalogue) : Keyed PlanNode :=
  Keyed.ofPairs
    ((c.nodes.filter CanvasNode.isExecutable).map fun n => (n.id, .ofCanvas catalogue n))

/-- The mappings of an edge's predecessors under the same key give way to its own. -/
def addMapping (data : Keyed Mapping) (e : CanvasEdge) : Keyed Mapping :=
  let key := edgeKey e.source e.target
  Keyed.set data key (Keyed.merge ((Keyed.find? data key).getD []) e.mapping)

def ofCanvas (c : Canvas) (catalogue : Catalogue) : Plan :=
  let adjacency := Keyed.mapValues List.eraseDups c.adjacency
  let entered := c.executableEdges.map (·.target)
  { nodes := compiledNodes c catalogue
    adjacency
    edgeData? := some (c.executableEdges.foldl addMapping [])
    entryNodes? := some (c.executableIds.filter fun id => !entered.contains id)
    terminalNodes? := some (Keyed.keys (adjacency.filter fun e => e.2.isEmpty)) }

end Plan

def Canvas.compile (c : Canvas) (catalogue : Catalogue) : Except (List Finding) Plan :=
  match c.findings catalogue with
  | [] => .ok (Plan.ofCanvas c catalogue)
  | findings => .error findings

end Workflow
