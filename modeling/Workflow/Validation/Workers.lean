import Workflow.Canvas.Basic
import Workflow.Catalogue.Basic
import Workflow.Validation.Finding

/-!
Worker nodes need a known type, or an address of their own to send work to.
-/

namespace Workflow.Validation

def unknownWorker (catalogue : Catalogue) (node type : String) : Finding :=
  let known := if catalogue.types.isEmpty then "(none)" else ", ".intercalate catalogue.types
  { problem := .invalidWorker
    message := s!"Unknown worker type: \"{type}\" on node \"{node}\". Valid types: {known}"
    node := some node
    edge := none
    field := some type }

def unaddressedWorker (node : String) : Finding where
  problem := .invalidWorker
  message :=
    s!"Worker node \"{node}\" has neither a worker_type nor a config.webhook_url to dispatch to"
  node := some node
  edge := none
  field := none

def hasAddress (n : CanvasNode) : Bool :=
  !((Keyed.find? n.data.config "webhook_url").getD .null).isFalsy

def checkWorker (catalogue : Catalogue) (n : CanvasNode) : List Finding :=
  if n.kind ≠ .worker then []
  else
    match n.data.workerType.getD "" with
    | "" => if hasAddress n then [] else [unaddressedWorker n.id]
    | type => if Keyed.has catalogue type then [] else [unknownWorker catalogue n.id type]

def checkWorkers (c : Canvas) (catalogue : Catalogue) : List Finding :=
  c.nodes.flatMap (checkWorker catalogue)

end Workflow.Validation
