import Workflow.Console.Labels
import Workflow.Console.Picture
import Workflow.Failure
import Workflow.Plan.Order

/-!
A plan on the console: as a table of its levels, and as a tree from each entry node.
-/

namespace Workflow

namespace PlanNode

def label (n : PlanNode) (id : String) (status : String) : String :=
  let type := n.workerType.getD ""
  let detail := if type.isEmpty then "" else s!" ({Markup.escape type})"
  let name := s!"{n.kind.symbol} {Markup.escape id}{detail}"
  if status.isEmpty || status == Status.pending.name then s!"[{n.kind.color}]{name}[/]"
  else s!"{name} {Status.markupOfName status}"

end PlanNode

namespace Plan

def label (p : Plan) (statuses : Keyed String) (id : String) : Except Failure String :=
  match p.node? id with
  | none => .error (.noEntry id)
  | some n => .ok (n.label id ((Keyed.find? statuses id).getD ""))

def levelRow (p : Plan) (index : Nat) (level : List String) : Except Failure (List String) := do
  return [toString index, "  |  ".intercalate (← level.mapM (p.label []))]

def levelTable (p : Plan) : Except Failure Table :=
  match p.levels? with
  | none => .error .cyclicPlan
  | some levels => do
    let rows ← levels.zipIdx.mapM fun e => p.levelRow e.2 e.1
    return ⟨"Execution levels", ["Level", "Nodes"], rows⟩

def shownBefore (id : String) : Tree := .node s!"[dim]↩ {Markup.escape id} (already shown)[/]" []

/-- The trees below the listed nodes, and all nodes shown by then. A node is shown with its children
once; the fuel bounds the depth. -/
def treesFrom (p : Plan) (statuses : Keyed String) :
    Nat → List String → List String → Except Failure (List Tree × List String)
  | _, shown, [] => .ok ([], shown)
  | 0, shown, _ => .ok ([], shown)
  | depth + 1, shown, id :: rest =>
    if shown.contains id then do
      let (others, shown) ← treesFrom p statuses (depth + 1) shown rest
      return (shownBefore id :: others, shown)
    else do
      let label ← p.label statuses id
      let (below, shown) ← treesFrom p statuses depth (id :: shown) (p.children id)
      let (others, shown) ← treesFrom p statuses (depth + 1) shown rest
      return (.node label below :: others, shown)
termination_by depth _ ids => (depth, ids.length)

def entryTrees (p : Plan) (statuses : Keyed String) (entry : String) :
    Except Failure (List Tree) := do
  return (← p.treesFrom statuses (p.nodes.length + 1) [] [entry]).1

def tree (p : Plan) (statuses : Keyed String) : Except Failure Tree := do
  return .node "[bold]Execution graph[/]" (← p.entryNodes.mapM (p.entryTrees statuses)).flatten

end Plan

end Workflow
