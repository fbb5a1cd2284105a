import Workflow.Plan.Compile
import Workflow.World

/-!
Saving flows and versions. A version is saved only if its canvas compiles.
-/

namespace Workflow.Versions

def createFlow (name canvasType : String) (parentId : Option String) : Action Flow := do
  let id ← World.drawId
  let now := (← get).now
  let f : Flow := ⟨id, name, canvasType, parentId, none, now, now⟩
  World.writeStore fun now => Store.createFlow now f
  return f

def createVersion (catalogue : Catalogue) (flowId : String) (canvas : Canvas)
    (message : Option String) : Action FlowVersion := do
  match canvas.compile catalogue with
  | .error findings => throw (.invalidCanvas findings)
  | .ok plan =>
    let id ← World.drawId
    let v : FlowVersion := ⟨id, flowId, canvas, plan, message, (← get).now⟩
    World.writeStore fun now => Store.insertVersion now v
    return v

def firstMessage : String := "Initial version (auto-created on run)"

def nextMessage : String := "Auto-versioned on run"

/-- The version that runs a canvas: the flow's current one if its canvas is the same, otherwise a
new one. -/
def versionFor (catalogue : Catalogue) (flowId : String) (canvas : Canvas) : Action String := do
  match (← get).store.flow? flowId with
  | none => throw (.flowNotFound flowId)
  | some flow =>
    match flow.currentVersionId with
    | none => return (← createVersion catalogue flowId canvas (some firstMessage)).id
    | some current =>
      let unchanged := ((← get).store.version? current).any fun v => v.canvas.sameAs canvas
      if unchanged then return current
      else return (← createVersion catalogue flowId canvas (some nextMessage)).id

end Workflow.Versions
