import Workflow.Document.View

/-!
What is wrong with a canvas: the kind of problem, where it is, and a message.
-/

namespace Workflow

inductive Problem where
  | cycle
  | missingInput
  | invalidWorker
  | invalidMapping
  | pairingMismatch
  | invalidMovement
  | duplicateNode
  | danglingEdge
deriving DecidableEq, Repr

instance : Named Problem where
  all := [.cycle, .missingInput, .invalidWorker, .invalidMapping, .pairingMismatch,
    .invalidMovement, .duplicateNode, .danglingEdge]
  name
    | .cycle => "cycle"
    | .missingInput => "missing_input"
    | .invalidWorker => "invalid_worker"
    | .invalidMapping => "invalid_mapping"
    | .pairingMismatch => "splitter_collector_mismatch"
    | .invalidMovement => "invalid_entity_movement"
    | .duplicateNode => "duplicate_node"
    | .danglingEdge => "dangling_edge"

structure Finding where
  problem : Problem
  message : String
  node : Option String
  edge : Option String
  field : Option String
deriving DecidableEq, Repr

namespace Finding

def read : Reader Finding :=
  Reader.record "ValidationError" fun ms =>
    mk <$> Reader.required ms (.plain "type") (Reader.literal Problem)
      <*> Reader.required ms (.plain "message") Reader.text
      <*> Reader.optional ms (.plain "node") none (Reader.nullable Reader.text)
      <*> Reader.optional ms (.plain "edge") none (Reader.nullable Reader.text)
      <*> Reader.optional ms (.plain "field") none (Reader.nullable Reader.text)

def view (f : Finding) : View :=
  .record
    [View.field (.plain "type") (.named f.problem),
      View.field (.plain "message") (.text f.message),
      View.field (.plain "node") (.text? f.node),
      View.field (.plain "edge") (.text? f.edge),
      View.field (.plain "field") (.text? f.field)]
    []

end Finding

end Workflow
