import Workflow.Canvas.Declared
import Workflow.Validation.Finding

/-!
Required inputs need a mapping on an edge into the node, or a declared default. An edge without a
mapping does not count.
-/

namespace Workflow.Validation

def missingInput (node input : String) : Finding where
  problem := .missingInput
  message :=
    s!"Required input \"{input}\" on node \"{node}\" has no explicit mapping or default value. " ++
      "Add an edge with data.mapping or provide a default."
  node := some node
  edge := none
  field := some input

def mappedInputs (c : Canvas) (id : String) : List String :=
  (c.edges.filter fun e => e.target = id).flatMap fun e => Keyed.keys e.mapping

def checkNodeInputs (c : Canvas) (catalogue : Catalogue) (n : CanvasNode) : List Finding :=
  if !n.isExecutable then []
  else
    let inputs := (n.declaredInputs catalogue).getD []
    let mapped := mappedInputs c n.id
    (inputs.filter fun i => i.2.isRequired && !mapped.contains i.1 && !i.2.hasDefault).map fun i =>
      missingInput n.id i.1

def checkInputs (c : Canvas) (catalogue : Catalogue) : List Finding :=
  c.nodes.flatMap (checkNodeInputs c catalogue)

end Workflow.Validation
