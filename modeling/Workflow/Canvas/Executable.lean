import Workflow.Canvas.Basic
import Workflow.Graph.Digraph

/-!
The executable part of a canvas: its nodes that are not presentation, and the edges between them.
-/

namespace Workflow.Canvas

def executableIds (c : Canvas) : List String :=
  ((c.nodes.filter CanvasNode.isExecutable).map (·.id)).eraseDups

def executableEdges (c : Canvas) : List CanvasEdge :=
  let ids := c.executableIds
  c.edges.filter fun e => ids.contains e.source && ids.contains e.target

def targetsFrom (edges : List CanvasEdge) (id : String) : List String :=
  (edges.filter fun e => e.source = id).map (·.target)

def adjacency (c : Canvas) : Keyed (List String) :=
  let edges := c.executableEdges
  c.executableIds.map fun id => (id, targetsFrom edges id)

def executableKinds (c : Canvas) : Keyed NodeKind :=
  Keyed.ofPairs ((c.nodes.filter CanvasNode.isExecutable).map fun n => (n.id, n.kind))

def digraph (c : Canvas) : Digraph where
  nodes := c.executableIds
  edges := (c.adjacency.flatMap fun e => e.2.map fun t => (e.1, t)).eraseDups

end Workflow.Canvas
