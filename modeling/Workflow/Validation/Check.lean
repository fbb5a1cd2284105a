import Workflow.Validation.Inputs
import Workflow.Validation.Mappings
import Workflow.Validation.Movement
import Workflow.Validation.Paths
import Workflow.Validation.Structure
import Workflow.Validation.Workers

/-!
All checks of a canvas. Every check runs, so one call tells everything that is wrong.
-/

namespace Workflow

def Canvas.findings (c : Canvas) (catalogue : Catalogue) : List Finding :=
  Validation.checkStructure c ++ Validation.checkCycles c ++
    Validation.checkWorkers c catalogue ++ Validation.checkInputs c catalogue ++
    Validation.checkMappings c catalogue ++ Validation.checkPairing c ++
    Validation.checkMovement c

end Workflow
