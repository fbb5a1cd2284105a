import Workflow.Canvas.Document

/-!
The compiled form of a workflow: nodes by id, the targets of each node's edges, and the mapping of
each edge under the key of its two ends.
-/

namespace Workflow

structure PlanNode where
  id : String
  kind : NodeKind
  workerType? : Option (Option String)
  config? : Option (Keyed Json)
  inputs? : Option (Option (Keyed InputSchema))
  outputs? : Option (Option (Keyed OutputSchema))
  movements? : Option (Option Movements)
deriving DecidableEq, Repr

namespace PlanNode

def workerType (n : PlanNode) : Option String := n.workerType?.join

def config (n : PlanNode) : Keyed Json := n.config?.getD []

def inputs (n : PlanNode) : Keyed InputSchema := n.inputs?.join.getD []

def movements (n : PlanNode) : Option Movements := n.movements?.join

end PlanNode

structure Plan where
  nodes : Keyed PlanNode
  adjacency : Keyed (List String)
  edgeData? : Option (Keyed Mapping)
  entryNodes? : Option (List String)
  terminalNodes? : Option (List String)
deriving DecidableEq, Repr

namespace Plan

def edgeData (p : Plan) : Keyed Mapping := p.edgeData?.getD []

def entryNodes (p : Plan) : List String := p.entryNodes?.getD []

def terminalNodes (p : Plan) : List String := p.terminalNodes?.getD []

def nodeIds (p : Plan) : List String := Keyed.keys p.nodes

def node? (p : Plan) (id : String) : Option PlanNode := Keyed.find? p.nodes id

def edgeKey (source target : String) : String := s!"{source}->{target}"

def children (p : Plan) (id : String) : List String := (Keyed.find? p.adjacency id).getD []

def edges (p : Plan) : List (String × String) :=
  p.adjacency.flatMap fun e => e.2.map fun target => (e.1, target)

def parents (p : Plan) (id : String) : List String :=
  (p.edges.filter fun e => e.2 = id).map Prod.fst

def mappingFor (p : Plan) (source target : String) : Mapping :=
  (Keyed.find? p.edgeData (edgeKey source target)).getD []

def isTerminal (p : Plan) (id : String) : Bool := (p.children id).isEmpty

end Plan

end Workflow
