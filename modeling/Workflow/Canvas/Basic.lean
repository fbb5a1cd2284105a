import Workflow.Graph.NodeKind
import Workflow.Graph.Schema
import Workflow.Graph.Movement
import Workflow.Mapping

/-!
The drawn form of a workflow: nodes with their payload and presentation data, and edges. A field
whose name ends in a question mark keeps apart what a document left out; the accessor without it
gives the default.
-/

namespace Workflow

structure NodeData where
  label? : Option (Option String)
  workerType? : Option (Option String)
  config? : Option (Keyed Json)
  inputs? : Option (Option (Keyed InputSchema))
  outputs? : Option (Option (Keyed OutputSchema))
  movements? : Option (Option Movements)
  extras : Keyed Json
deriving DecidableEq, Repr

namespace NodeData

def empty : NodeData := ⟨none, none, none, none, none, none, []⟩

def workerType (d : NodeData) : Option String := d.workerType?.join

def config (d : NodeData) : Keyed Json := d.config?.getD []

def inputs (d : NodeData) : Option (Keyed InputSchema) := d.inputs?.join

def outputs (d : NodeData) : Option (Keyed OutputSchema) := d.outputs?.join

def movements (d : NodeData) : Option Movements := d.movements?.join

end NodeData

structure Position where
  x? : Option Floating
  y? : Option Floating
deriving DecidableEq, Repr

structure CanvasNode where
  id : String
  kind : NodeKind
  position? : Option Position
  data? : Option NodeData
  style? : Option (Option (Keyed Json))
  width? : Option (Option Floating)
  height? : Option (Option Floating)
  parent? : Option (Option String)
  extras : Keyed Json
deriving DecidableEq, Repr

namespace CanvasNode

def data (n : CanvasNode) : NodeData := n.data?.getD .empty

def isExecutable (n : CanvasNode) : Bool := !n.kind.isPresentation

end CanvasNode

structure EdgeData where
  mapping? : Option (Option Mapping)
  extras : Keyed Json
deriving DecidableEq, Repr

structure CanvasEdge where
  id : String
  source : String
  target : String
  data? : Option (Option EdgeData)
  extras : Keyed Json
deriving DecidableEq, Repr

def CanvasEdge.mapping (e : CanvasEdge) : Mapping :=
  (e.data?.join.bind fun d => d.mapping?.join).getD []

structure Canvas where
  nodes? : Option (List CanvasNode)
  edges? : Option (List CanvasEdge)
deriving DecidableEq, Repr

namespace Canvas

def nodes (c : Canvas) : List CanvasNode := c.nodes?.getD []

def edges (c : Canvas) : List CanvasEdge := c.edges?.getD []

/-- The nodes by id: of two nodes with one id the later one counts, at the place of the first. -/
def nodeMap (c : Canvas) : Keyed CanvasNode := Keyed.ofPairs (c.nodes.map fun n => (n.id, n))

end Canvas

end Workflow
