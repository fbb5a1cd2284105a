import Workflow.Console.Labels
import Workflow.Console.Picture
import Workflow.Engine.Input
import Workflow.Store.Event
import Workflow.Store.Flow
import Workflow.Validation.Finding

namespace Workflow

namespace Run

def detail (s : NodeState) : String :=
  match s.error with
  | none | some "" => Markup.brief 50 s.output
  | some error => s!"[red]{Markup.brief 50 (.str error)}[/]"

def row (r : Run) (kindOf : String → Option NodeKind) (key : String) :
    Except Failure (List String) := do
  let s ← Failure.ofMissing (r.stateAt key)
  let name := Markup.escape key
  let label := if (r.instance? key).isSome then s!"  └ {name}" else name
  let kind := ((kindOf (r.template key)).map Named.name).getD ""
  return [label, kind, s.status.markup, detail s]

def table (r : Run) (plan? : Option Plan) : Except Failure Table := do
  let kindOf (id : String) := (plan?.bind fun p => p.node? id).map (·.kind)
  let rows ← r.effectiveKeys.mapM (r.row kindOf)
  return ⟨s!"Run {Markup.escape r.id}", ["Node", "Type", "Status", "Output / error"], rows⟩

end Run

def firstText (a b : Option String) : String :=
  match a with
  | none | some "" => b.getD ""
  | some text => text

def Finding.row (f : Finding) : List String :=
  [Named.name f.problem, Markup.escape (firstText f.node f.edge), Markup.escape (f.field.getD ""),
    Markup.escape f.message]

def findingTable (findings : List Finding) : Table where
  title := s!"{findings.length} validation error(s)"
  columns := ["Type", "Node / edge", "Field", "Message"]
  rows := findings.map (·.row)

def shortDate (t : Instant) : String :=
  s!"{t.date.year}-{Instant.padded 2 t.date.month}-{Instant.padded 2 t.date.day}"

def VersionEntry.row (v : VersionEntry) : List String :=
  [Markup.escape v.id, s!"{shortDate v.createdAt} {v.createdAt.clockText}",
    Markup.escape (v.message.getD "")]

def versionTable (versions : List VersionEntry) : Table where
  title := "Versions (newest first)"
  columns := ["Version", "Created", "Message"]
  rows := versions.map (·.row)

namespace Event

def timeText (t : Instant) : String := s!"{t.clockText}.{Instant.padded 3 (t.fraction / 1000)}"

def row (e : Event) : List String :=
  [(e.id.map toString).getD "None", timeText e.timestamp, Named.name e.kind,
    Markup.escape (e.nodeKey.getD ""), Status.markupOfName (e.status.getD ""),
    if e.payload.isEmpty then "" else Markup.brief 50 (.obj e.payload)]

end Event

def eventTable (events : List Event) : Table where
  title := "Run timeline"
  columns := ["#", "Time", "Event", "Node", "Status", "Details"]
  rows := events.map (·.row)

end Workflow
