import Workflow.Canvas.Executable
import Workflow.Graph.CycleSearch
import Workflow.Validation.Finding

/-!
Executable nodes form no cycle. Every splitter leads to a collector, and every collector has an edge
that enters it.
-/

namespace Workflow.Validation

def cycleFinding (cycle : List String) : Finding where
  problem := .cycle
  message :=
    "Graph contains a cycle: " ++ " -> ".intercalate cycle ++
      ". This would cause infinite loops during execution."
  node := cycle.head?
  edge := none
  field := none

def canvasCycles (c : Canvas) : List (List String) :=
  let adjacency := c.adjacency
  CycleSearch.cycles c.executableIds fun id => (Keyed.find? adjacency id).getD []

def checkCycles (c : Canvas) : List Finding := (canvasCycles c).map cycleFinding

def pairingFinding (node message : String) : Finding :=
  ⟨.pairingMismatch, message, some node, none, none⟩

def openSplitter (node : String) : Finding :=
  pairingFinding node <|
    s!"Splitter node \"{node}\" has no downstream connections. " ++
      "Splitters must connect to at least one node."

def unpairedSplitter (node : String) : Finding :=
  pairingFinding node <|
    s!"Splitter node \"{node}\" does not connect to any Collector node. " ++
      "Splitters must eventually connect to a Collector to merge parallel paths."

def unfedCollector (node : String) : Finding :=
  pairingFinding node <|
    s!"Collector node \"{node}\" has no upstream connections. " ++
      "Collectors must have at least one upstream node."

def descendants (g : Digraph) (id : String) : List String :=
  (g.reachable id).filter (· ≠ id)

def reachesCollector (g : Digraph) (kinds : Keyed NodeKind) (id : String) : Bool :=
  (descendants g id).any fun d => Keyed.find? kinds d == some .collector

def checkPair (g : Digraph) (kinds : Keyed NodeKind) (id : String) : NodeKind → List Finding
  | .splitter =>
    if (g.successors id).isEmpty then [openSplitter id]
    else if reachesCollector g kinds id then []
    else [unpairedSplitter id]
  | .collector => if (g.predecessors id).isEmpty then [unfedCollector id] else []
  | _ => []

def checkPairing (c : Canvas) : List Finding :=
  let g := c.digraph
  let kinds := c.executableKinds
  kinds.flatMap fun e => checkPair g kinds e.1 e.2

end Workflow.Validation
