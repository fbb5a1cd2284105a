import Workflow.Graph.Digraph
import Workflow.Plan.Basic

/-!
The order of a plan's nodes: levels whose nodes can run together, and the longest chain of nodes.
-/

namespace Workflow.Plan

def digraph (p : Plan) : Digraph := .ofEdges p.nodeIds p.edges

def levels? (p : Plan) : Option (List (List String)) :=
  p.digraph.generations?.map fun layers => layers.map fun layer => layer.mergeSort fun a b => a ≤ b

def criticalPath? (p : Plan) : Option (List String) := p.digraph.longestPath?

end Workflow.Plan
