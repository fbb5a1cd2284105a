import Workflow.Plan.Document
import Workflow.Instant

/-!
Flows and their versions. A version is a canvas with its compiled plan, and never changes.
-/

namespace Workflow

structure Flow where
  id : String
  name : String
  canvasType : String
  parentId : Option String
  currentVersionId : Option String
  createdAt : Instant
  updatedAt : Instant
deriving DecidableEq, Repr

namespace Flow

def read (now : Instant) : Reader Flow :=
  Reader.record "Flow" fun ms =>
    mk <$> Reader.required ms (.plain "id") Reader.text
      <*> Reader.required ms (.plain "name") Reader.text
      <*> Reader.optional ms (.plain "canvas_type") "workflow" Reader.text
      <*> Reader.optional ms (.plain "parent_id") none (Reader.nullable Reader.text)
      <*> Reader.optional ms (.plain "current_version_id") none (Reader.nullable Reader.text)
      <*> Reader.optional ms (.plain "created_at") now Instant.read
      <*> Reader.optional ms (.plain "updated_at") now Instant.read

def view (f : Flow) : View :=
  .record
    [View.field (.plain "id") (.text f.id),
      View.field (.plain "name") (.text f.name),
      View.field (.plain "canvas_type") (.text f.canvasType),
      View.field (.plain "parent_id") (.text? f.parentId),
      View.field (.plain "current_version_id") (.text? f.currentVersionId),
      View.field (.plain "created_at") f.createdAt.view,
      View.field (.plain "updated_at") f.updatedAt.view]
    []

end Flow

structure FlowVersion where
  id : String
  flowId : String
  canvas : Canvas
  plan : Plan
  message : Option String
  createdAt : Instant
deriving DecidableEq, Repr

namespace FlowVersion

def read (now : Instant) : Reader FlowVersion :=
  Reader.record "FlowVersion" fun ms =>
    mk <$> Reader.required ms (.plain "id") Reader.text
      <*> Reader.required ms (.plain "flow_id") Reader.text
      <*> Reader.required ms (.plain "visual_graph") Canvas.read
      <*> Reader.required ms (.plain "execution_graph") Plan.read
      <*> Reader.optional ms (.plain "commit_message") none (Reader.nullable Reader.text)
      <*> Reader.optional ms (.plain "created_at") now Instant.read

def view (v : FlowVersion) : View :=
  .record
    [View.field (.plain "id") (.text v.id),
      View.field (.plain "flow_id") (.text v.flowId),
      View.field (.plain "visual_graph") v.canvas.view,
      View.field (.plain "execution_graph") v.plan.view,
      View.field (.plain "commit_message") (.text? v.message),
      View.field (.plain "created_at") v.createdAt.view]
    []

def written (v : FlowVersion) : FlowVersion :=
  { v with canvas := v.canvas.written, plan := v.plan.written }

end FlowVersion

structure VersionEntry where
  id : String
  flowId : String
  message : Option String
  createdAt : Instant
deriving DecidableEq, Repr

namespace VersionEntry

def ofVersion (v : FlowVersion) : VersionEntry := ⟨v.id, v.flowId, v.message, v.createdAt⟩

def read : Reader VersionEntry :=
  Reader.record "FlowVersionMetadata" fun ms =>
    mk <$> Reader.required ms (.plain "id") Reader.text
      <*> Reader.required ms (.plain "flow_id") Reader.text
      <*> Reader.optional ms (.plain "commit_message") none (Reader.nullable Reader.text)
      <*> Reader.required ms (.plain "created_at") Instant.read

def view (v : VersionEntry) : View :=
  .record
    [View.field (.plain "id") (.text v.id),
      View.field (.plain "flow_id") (.text v.flowId),
      View.field (.plain "commit_message") (.text? v.message),
      View.field (.plain "created_at") v.createdAt.view]
    []

end VersionEntry

end Workflow
