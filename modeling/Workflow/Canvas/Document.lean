import Workflow.Canvas.Basic
import Workflow.Json.Equivalence

namespace Workflow

def nullView : View := .plain .null

namespace NodeData

def movementsField : FieldName := ⟨"entityMovement", "entity_movement"⟩

def fields : List FieldName :=
  [.plain "label", .plain "worker_type", .plain "config", .plain "inputs", .plain "outputs",
    movementsField]

def read : Reader NodeData :=
  Reader.record "NodeData" fun ms =>
    mk <$> Reader.given ms (.plain "label") (Reader.nullable Reader.text)
      <*> Reader.given ms (.plain "worker_type") (Reader.nullable Reader.text)
      <*> Reader.given ms (.plain "config") Reader.object
      <*> Reader.given ms (.plain "inputs") (Reader.nullable (Reader.mapping InputSchema.read))
      <*> Reader.given ms (.plain "outputs") (Reader.nullable (Reader.mapping OutputSchema.read))
      <*> Reader.given ms movementsField (Reader.nullable Movements.read)
      <*> pure (Reader.extras ms fields)

def view (d : NodeData) : View :=
  .record
    [View.fieldOf (.plain "label") .text? d.label? nullView,
      View.fieldOf (.plain "worker_type") .text? d.workerType? nullView,
      View.fieldOf (.plain "config") .object d.config? (.object []),
      View.fieldOf (.plain "inputs") (.nullable (.mappingOf InputSchema.view)) d.inputs? nullView,
      View.fieldOf (.plain "outputs") (.nullable (.mappingOf OutputSchema.view)) d.outputs?
        nullView,
      View.fieldOf movementsField (.nullable Movements.view) d.movements? nullView]
    d.extras

def written (d : NodeData) : NodeData :=
  { d with
    config? := d.config?.map Json.writtenMembers
    inputs? := d.inputs?.map (Option.map (Keyed.mapValues InputSchema.written))
    extras := Json.writtenMembers d.extras }

end NodeData

namespace Position

def read : Reader Position :=
  Reader.record "Position" fun ms =>
    mk <$> Reader.given ms (.plain "x") Reader.number <*> Reader.given ms (.plain "y") Reader.number

def view (p : Position) : View :=
  let zero := View.number .zero
  .record
    [View.fieldOf (.plain "x") .number p.x? zero, View.fieldOf (.plain "y") .number p.y? zero] []

def written (p : Position) : Position where
  x? := p.x?.map Floating.written
  y? := p.y?.map Floating.written

end Position

namespace CanvasNode

def parentField : FieldName := ⟨"parentNode", "parent_node"⟩

def fields : List FieldName :=
  [.plain "id", .plain "type", .plain "position", .plain "data", .plain "style", .plain "width",
    .plain "height", parentField]

def readId : Reader String := fun x =>
  (Reader.text x).andThen fun s => if s.isEmpty then .issue .emptyId else .ok s

def read : Reader CanvasNode :=
  Reader.record "VisualNode" fun ms =>
    mk <$> Reader.required ms (.plain "id") readId
      <*> Reader.required ms (.plain "type") (Reader.enumerated NodeKind)
      <*> Reader.given ms (.plain "position") Position.read
      <*> Reader.given ms (.plain "data") NodeData.read
      <*> Reader.given ms (.plain "style") (Reader.nullable Reader.object)
      <*> Reader.given ms (.plain "width") (Reader.nullable Reader.number)
      <*> Reader.given ms (.plain "height") (Reader.nullable Reader.number)
      <*> Reader.given ms parentField (Reader.nullable Reader.text)
      <*> pure (Reader.extras ms fields)

def view (n : CanvasNode) : View :=
  .record
    [View.field (.plain "id") (.text n.id),
      View.field (.plain "type") (.named n.kind),
      View.fieldOf (.plain "position") Position.view n.position? (Position.view ⟨none, none⟩),
      View.fieldOf (.plain "data") NodeData.view n.data? (NodeData.view .empty),
      View.fieldOf (.plain "style") (.nullable .object) n.style? nullView,
      View.fieldOf (.plain "width") (.nullable .number) n.width? nullView,
      View.fieldOf (.plain "height") (.nullable .number) n.height? nullView,
      View.fieldOf parentField .text? n.parent? nullView]
    n.extras

def written (n : CanvasNode) : CanvasNode :=
  { n with
    position? := n.position?.map Position.written
    data? := n.data?.map NodeData.written
    style? := n.style?.map (Option.map Json.writtenMembers)
    width? := n.width?.map (Option.map Floating.written)
    height? := n.height?.map (Option.map Floating.written)
    extras := Json.writtenMembers n.extras }

end CanvasNode

namespace EdgeData

def read : Reader EdgeData :=
  Reader.record "EdgeData" fun ms =>
    mk <$> Reader.given ms (.plain "mapping") (Reader.nullable (Reader.mapping Reader.text))
      <*> pure (Reader.extras ms [.plain "mapping"])

def view (d : EdgeData) : View :=
  .record
    [View.fieldOf (.plain "mapping") (.nullable (.mappingOf .text)) d.mapping? nullView]
    d.extras

def written (d : EdgeData) : EdgeData := { d with extras := Json.writtenMembers d.extras }

end EdgeData

namespace CanvasEdge

def fields : List FieldName := [.plain "id", .plain "source", .plain "target", .plain "data"]

def read : Reader CanvasEdge :=
  Reader.record "VisualEdge" fun ms =>
    mk <$> Reader.required ms (.plain "id") Reader.text
      <*> Reader.required ms (.plain "source") Reader.text
      <*> Reader.required ms (.plain "target") Reader.text
      <*> Reader.given ms (.plain "data") (Reader.nullable EdgeData.read)
      <*> pure (Reader.extras ms fields)

def view (e : CanvasEdge) : View :=
  .record
    [View.field (.plain "id") (.text e.id),
      View.field (.plain "source") (.text e.source),
      View.field (.plain "target") (.text e.target),
      View.fieldOf (.plain "data") (.nullable EdgeData.view) e.data? nullView]
    e.extras

def written (e : CanvasEdge) : CanvasEdge :=
  { e with
    data? := e.data?.map (Option.map EdgeData.written)
    extras := Json.writtenMembers e.extras }

end CanvasEdge

namespace Canvas

def read : Reader Canvas :=
  Reader.record "VisualGraph" fun ms =>
    mk <$> Reader.given ms (.plain "nodes") (Reader.list CanvasNode.read)
      <*> Reader.given ms (.plain "edges") (Reader.list CanvasEdge.read)

def view (c : Canvas) : View :=
  .record
    [View.fieldOf (.plain "nodes") (.listOf CanvasNode.view) c.nodes? (.list []),
      View.fieldOf (.plain "edges") (.listOf CanvasEdge.view) c.edges? (.list [])]
    []

/-- The document that keeps everything that was given, and nothing else. -/
def stored (c : Canvas) : Json := c.view.stored true

def written (c : Canvas) : Canvas where
  nodes? := c.nodes?.map (List.map CanvasNode.written)
  edges? := c.edges?.map (List.map CanvasEdge.written)

def canonical (c : Canvas) : Json := c.view.canonical

/-- Equal but for the order of members, the spelling of numbers, and nulls against absence. -/
def sameAs (c d : Canvas) : Bool := c.canonical.equivalent d.canonical

end Canvas

end Workflow
