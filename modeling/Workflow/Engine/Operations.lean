import Workflow.Engine.Settle

/-!
The operations on runs. Each is a step with the deliveries that follow it.
-/

namespace Workflow.Engine

def newRun (id : String) (v : FlowVersion) (trigger : Trigger) (entityId : Option String)
    (now : Instant) : Run where
  id := id
  flowId := v.flowId
  versionId := v.id
  entityId := entityId
  trigger := trigger
  states := v.plan.nodeIds.map fun node => (node, .pending .null)
  instances := []
  revision := 0
  createdAt := now
  updatedAt := now

def startRun (e : Engine) (versionId : String) (trigger : Trigger) (entityId : Option String)
    (input : Option (Keyed Json)) : Action Run := do
  let v ← World.version versionId
  let id ← World.drawId
  let payload := input.orElse fun _ => trigger.payload
  let r := newRun id v { trigger with payload } entityId (← get).now
  World.writeStore fun now => Store.createRun now r
  e.advance id (v.plan.entryNodes.map .fire)
  World.run id

def walkFrom (e : Engine) (runId key : String) : Action Unit := e.advance runId [.walk key]

def fireNode (e : Engine) (runId node : String) : Action Unit := e.advance runId [.fire node]

def command (e : Engine) (runId : String) (m : Message) : Action Run := do
  e.advance runId [m]
  World.run runId

def handleCallback (e : Engine) (runId key : String) (c : Callback) : Action Run :=
  e.command runId (.callback key c)

def submitInput (e : Engine) (runId key : String) (input : Json) : Action Run :=
  e.command runId (.resume key input)

def retryNode (e : Engine) (runId key : String) : Action Run := e.command runId (.retry key)

def reconcileRun (e : Engine) (runId : String) : Action Run := e.command runId .reconcile

def runStatus (runId : String) : Action (List (String × Status)) := do
  return (← World.run runId).states.map fun s => (s.1, s.2.status)

end Workflow.Engine
