import Workflow.Run.Basic

namespace Workflow

inductive EventKind where
  | flowCreated
  | versionCreated
  | runStarted
  | nodeStatusChanged
  | instancesCreated
  | entityMoved
deriving DecidableEq, Repr

instance : Named EventKind where
  all := [.flowCreated, .versionCreated, .runStarted, .nodeStatusChanged, .instancesCreated,
    .entityMoved]
  name
    | .flowCreated => "flow_created"
    | .versionCreated => "version_created"
    | .runStarted => "run_started"
    | .nodeStatusChanged => "node_status_changed"
    | .instancesCreated => "instances_created"
    | .entityMoved => "entity_moved"

structure Event where
  id : Option Int
  kind : EventKind
  flowId : Option String
  runId : Option String
  nodeKey : Option String
  status : Option String
  payload : Keyed Json
  timestamp : Instant
deriving DecidableEq, Repr

namespace Event

def read (now : Instant) : Reader Event :=
  Reader.record "Event" fun ms =>
    mk <$> Reader.optional ms (.plain "id") none (Reader.nullable Reader.integer)
      <*> Reader.required ms (.plain "event_type") (Reader.enumerated EventKind)
      <*> Reader.optional ms (.plain "flow_id") none (Reader.nullable Reader.text)
      <*> Reader.optional ms (.plain "run_id") none (Reader.nullable Reader.text)
      <*> Reader.optional ms (.plain "node_key") none (Reader.nullable Reader.text)
      <*> Reader.optional ms (.plain "status") none (Reader.nullable Reader.text)
      <*> Reader.optional ms (.plain "payload") [] Reader.object
      <*> Reader.optional ms (.plain "timestamp") now Instant.read

def view (e : Event) : View :=
  .record
    [View.field (.plain "id") (.nullable (fun i => .plain (.int i)) e.id),
      View.field (.plain "event_type") (.named e.kind),
      View.field (.plain "flow_id") (.text? e.flowId),
      View.field (.plain "run_id") (.text? e.runId),
      View.field (.plain "node_key") (.text? e.nodeKey),
      View.field (.plain "status") (.text? e.status),
      View.field (.plain "payload") (.object e.payload),
      View.field (.plain "timestamp") e.timestamp.view]
    []

end Event

end Workflow
