import Workflow.Document.View

namespace Workflow

structure Request where
  runId : String
  nodeKey : String
  workerType : Option String
  config : Keyed Json
  input : Json
  callbackUrl : String
deriving DecidableEq, Repr

namespace Request

def runField : FieldName := ⟨"runId", "run_id"⟩

def nodeField : FieldName := ⟨"nodeId", "node_id"⟩

def typeField : FieldName := ⟨"workerType", "worker_type"⟩

def callbackField : FieldName := ⟨"callbackUrl", "callback_url"⟩

def read : Reader Request :=
  Reader.record "WorkerRequest" fun ms =>
    mk <$> Reader.required ms runField Reader.text
      <*> Reader.required ms nodeField Reader.text
      <*> Reader.optional ms typeField none (Reader.nullable Reader.text)
      <*> Reader.optional ms (.plain "config") [] Reader.object
      <*> Reader.optional ms (.plain "input") .null Reader.any
      <*> Reader.required ms callbackField Reader.text

def view (r : Request) : View :=
  .record
    [View.field runField (.text r.runId),
      View.field nodeField (.text r.nodeKey),
      View.field typeField (.text? r.workerType),
      View.field (.plain "config") (.object r.config),
      View.field (.plain "input") (.untyped r.input),
      View.field callbackField (.text r.callbackUrl)]
    []

def payload (r : Request) : Json := r.view.stored true

end Request

end Workflow
