import Workflow.Canvas.Basic
import Workflow.Catalogue.Basic

/-!
The inputs and outputs that a node declares: its own, or those of its worker type. None where
nothing is declared anywhere.
-/

namespace Workflow.CanvasNode

def workerDefinition? (n : CanvasNode) (catalogue : Catalogue) : Option WorkerType :=
  match n.kind, n.data.workerType with
  | .worker, some type => if type.isEmpty then none else catalogue.get? type
  | _, _ => none

def declaredInputs (n : CanvasNode) (catalogue : Catalogue) : Option (Keyed InputSchema) :=
  n.data.inputs.orElse fun _ => (n.workerDefinition? catalogue).map (·.input)

def declaredOutputs (n : CanvasNode) (catalogue : Catalogue) : Option (Keyed OutputSchema) :=
  n.data.outputs.orElse fun _ => (n.workerDefinition? catalogue).map (·.output)

end Workflow.CanvasNode
