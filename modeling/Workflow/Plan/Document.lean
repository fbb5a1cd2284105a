import Workflow.Plan.Basic

/-!
Plans as documents. Members have the names of the library throughout.
-/

namespace Workflow

namespace PlanNode

def read : Reader PlanNode :=
  Reader.record "ExecutionNode" fun ms =>
    mk <$> Reader.required ms (.plain "id") Reader.text
      <*> Reader.required ms (.plain "type") (Reader.enumerated NodeKind)
      <*> Reader.given ms (.plain "worker_type") (Reader.nullable Reader.text)
      <*> Reader.given ms (.plain "config") Reader.object
      <*> Reader.given ms (.plain "inputs") (Reader.nullable (Reader.mapping InputSchema.read))
      <*> Reader.given ms (.plain "outputs") (Reader.nullable (Reader.mapping OutputSchema.read))
      <*> Reader.given ms (.plain "entity_movement") (Reader.nullable Movements.read)

def view (n : PlanNode) : View :=
  .record
    [View.field (.plain "id") (.text n.id),
      View.field (.plain "type") (.named n.kind),
      View.fieldOf (.plain "worker_type") .text? n.workerType? nullView,
      View.fieldOf (.plain "config") .object n.config? (.object []),
      View.fieldOf (.plain "inputs") (.nullable (.mappingOf InputSchema.view)) n.inputs? nullView,
      View.fieldOf (.plain "outputs") (.nullable (.mappingOf OutputSchema.view)) n.outputs?
        nullView,
      View.fieldOf (.plain "entity_movement") (.nullable Movements.view) n.movements? nullView]
    []

def written (n : PlanNode) : PlanNode :=
  { n with
    config? := n.config?.map Json.writtenMembers
    inputs? := n.inputs?.map (Option.map (Keyed.mapValues InputSchema.written)) }

end PlanNode

namespace Plan

def read : Reader Plan :=
  Reader.record "ExecutionGraph" fun ms =>
    mk <$> Reader.required ms (.plain "nodes") (Reader.mapping PlanNode.read)
      <*> Reader.required ms (.plain "adjacency") (Reader.mapping (Reader.list Reader.text))
      <*> Reader.given ms (.plain "edge_data") (Reader.mapping (Reader.mapping Reader.text))
      <*> Reader.given ms (.plain "entry_nodes") (Reader.list Reader.text)
      <*> Reader.given ms (.plain "terminal_nodes") (Reader.list Reader.text)

def view (p : Plan) : View :=
  .record
    [View.field (.plain "nodes") (.mappingOf PlanNode.view p.nodes),
      View.field (.plain "adjacency") (.mappingOf (.listOf .text) p.adjacency),
      View.fieldOf (.plain "edge_data") (.mappingOf (.mappingOf .text)) p.edgeData? (.mapping []),
      View.fieldOf (.plain "entry_nodes") (.listOf .text) p.entryNodes? (.list []),
      View.fieldOf (.plain "terminal_nodes") (.listOf .text) p.terminalNodes? (.list [])]
    []

def stored (p : Plan) : Json := p.view.stored false

def written (p : Plan) : Plan := { p with nodes := Keyed.mapValues PlanNode.written p.nodes }

end Plan

end Workflow
