import Workflow.Run.Basic

namespace Workflow

namespace NodeState

def read : Reader NodeState :=
  Reader.record "NodeState" fun ms =>
    mk <$> Reader.optional ms (.plain "status") .pending (Reader.enumerated Status)
      <*> Reader.optional ms (.plain "output") .null Reader.written
      <*> Reader.optional ms (.plain "error") none (Reader.nullable Reader.text)
      <*> Reader.optional ms (.plain "started_at") none (Reader.nullable Instant.read)
      <*> Reader.optional ms (.plain "updated_at") none (Reader.nullable Instant.read)

def view (s : NodeState) : View :=
  .record
    [View.field (.plain "status") (.named s.status),
      View.field (.plain "output") (.untyped s.output),
      View.field (.plain "error") (.text? s.error),
      View.field (.plain "started_at") (.nullable Instant.view s.startedAt),
      View.field (.plain "updated_at") (.nullable Instant.view s.updatedAt)]
    []

end NodeState

namespace Trigger

def read : Reader Trigger :=
  Reader.record "TriggerMetadata" fun ms =>
    mk <$> Reader.optional ms (.plain "type") .manual (Reader.literal TriggerKind)
      <*> Reader.optional ms (.plain "source") none (Reader.nullable Reader.text)
      <*> Reader.optional ms (.plain "payload") none (Reader.nullable (Reader.mapping Reader.written))

def view (t : Trigger) : View :=
  .record
    [View.field (.plain "type") (.named t.kind),
      View.field (.plain "source") (.text? t.source),
      View.field (.plain "payload") (.nullable .object t.payload)]
    []

end Trigger

namespace InstanceKey

def read : Reader InstanceKey :=
  Reader.record "InstanceKey" fun ms =>
    mk <$> Reader.required ms (.plain "template_id") Reader.text
      <*> Reader.required ms (.plain "index") Reader.integer

def view (k : InstanceKey) : View :=
  .record
    [View.field (.plain "template_id") (.text k.template),
      View.field (.plain "index") (.plain (.int k.index))]
    []

end InstanceKey

namespace Run

def read (now : Instant) : Reader Run :=
  Reader.record "Run" fun ms =>
    mk <$> Reader.required ms (.plain "id") Reader.text
      <*> Reader.required ms (.plain "flow_id") Reader.text
      <*> Reader.required ms (.plain "flow_version_id") Reader.text
      <*> Reader.optional ms (.plain "entity_id") none (Reader.nullable Reader.text)
      <*> Reader.optional ms (.plain "trigger") .byHand Trigger.read
      <*> Reader.optional ms (.plain "node_states") [] (Reader.mapping NodeState.read)
      <*> Reader.optional ms (.plain "parallel_instances") []
        (Reader.mapping (Reader.list Reader.integer))
      <*> Reader.optional ms (.plain "revision") 0 Reader.integer
      <*> Reader.optional ms (.plain "created_at") now Instant.read
      <*> Reader.optional ms (.plain "updated_at") now Instant.read

def view (r : Run) : View :=
  .record
    [View.field (.plain "id") (.text r.id),
      View.field (.plain "flow_id") (.text r.flowId),
      View.field (.plain "flow_version_id") (.text r.versionId),
      View.field (.plain "entity_id") (.text? r.entityId),
      View.field (.plain "trigger") r.trigger.view,
      View.field (.plain "node_states") (.mappingOf NodeState.view r.states),
      View.field (.plain "parallel_instances")
        (.mappingOf (.listOf fun i => .plain (.int i)) r.instances),
      View.field (.plain "revision") (.plain (.int r.revision)),
      View.field (.plain "created_at") r.createdAt.view,
      View.field (.plain "updated_at") r.updatedAt.view]
    []

end Run

end Workflow
