import Workflow.Engine.Handler
import Workflow.Plan.Order

/-!
Handling one message of a step. Everything is decided from the run as it is when the message comes
up.
-/

namespace Workflow.Engine

def readyAmong (p : Plan) (r : Run) : List String → Except Failure (List String)
  | [] => .ok []
  | id :: rest => do
    let ready ← isReady p r id
    let others ← readyAmong p r rest
    return if ready then id :: others else others

def walk (p : Plan) (r : Run) (key : String) : Action Outcome := do
  let template := r.template key
  match p.node? template with
  | none => return .nothing
  | some _ => return .fire (← World.lift (readyAmong p r (p.children template)))

/-- The mapping of the edge from the first splitter among the sources of a node. -/
def itemMapping (p : Plan) (id : String) : List String → Except Failure Mapping
  | [] => .ok []
  | source :: rest =>
    match p.node? source with
    | none => .error (.noEntry source)
    | some n => if n.kind = .splitter then .ok (p.mappingFor source id) else itemMapping p id rest

def fireInstances (settings : Settings) (p : Plan) (r : Run) (n : PlanNode) (mapping : Mapping) :
    List String → Action Outcome
  | [] => return .nothing
  | key :: rest => do
    let s ← World.lift (Failure.ofMissing (r.stateAt key))
    let here ←
      if s.status = .pending then do
        let input ← World.lift (Failure.ofPath (Mapping.instanceInput s.output mapping))
        runHandler settings p r n key input .pending
      else pure .nothing
    return here.append (← fireInstances settings p r n mapping rest)

def fire (settings : Settings) (p : Plan) (r : Run) (id : String) : Action Outcome := do
  match p.node? id with
  | none => return .nothing
  | some n =>
    if r.hasInstances id then
      if (r.instanceKeys id).isEmpty then return .walk id
      else
        let mapping ← World.lift (itemMapping p id (p.parents id))
        fireInstances settings p r n mapping (instanceTexts r id)
    else
      let input ← World.lift (nodeInput p r n)
      runHandler settings p r n id input .pending

def reported (c : Callback) : NodeUpdate :=
  match c.result with
  | .completed => .finish .completed c.output
  | .failed => .fail c.errorText

def movementAfter (n : PlanNode) (c : Callback) : Option MovementAction :=
  if n.kind = .worker then
    n.movements.bind fun m => if c.succeeded then m.onSuccess else m.onFailure
  else none

def entityMoved (now : Instant) (r : Run) (entityId : String) (n : PlanNode) (a : MovementAction)
    (result : WorkerResult) : Event where
  id := none
  kind := .entityMoved
  flowId := some r.flowId
  runId := some r.id
  nodeKey := some n.id
  status := none
  payload :=
    [("entity_id", .str entityId), ("target_section_id", .str a.targetSection),
      ("complete_as", .str (Named.name a.completeAs)),
      ("set_entity_type", .ofText? (a.entityType.map Named.name)),
      ("worker_status", .str (Named.name result))]
  timestamp := now

def logMovement (r : Run) (n : PlanNode) (c : Callback) : Action Unit := do
  match r.entityId, movementAfter n c with
  | some entityId, some a =>
    let _ ← World.logEvent (entityMoved (← get).now r entityId n a c.result)
  | _, _ => return

/-- Records a worker's report on a running node and walks on. A report on another node comes too
late or too early, and is ignored. -/
def report (p : Plan) (r : Run) (key : String) (c : Callback) : Action Outcome := do
  match r.state? key with
  | none => throw (.unknownKey r.id key)
  | some s =>
    if s.status ≠ .running then return .nothing
    else
      let updated ← unlessIllegal (some <$> World.update r.id [(key, reported c)]) none
      match updated with
      | none => return .nothing
      | some after =>
        match p.node? (r.template key) with
        | some n => logMovement after n c
        | none => pure ()
        return .walk key

def resume (r : Run) (key : String) (input : Json) : Action Outcome := do
  match r.state? key with
  | none => throw (.unknownKey r.id key)
  | some s =>
    if s.status ≠ .waitingForUser then throw (.illegalMove s.status .running)
    else
      match ← World.claim r.id key [.waitingForUser] .running with
      | none =>
        let now ← World.lift (Failure.ofMissing ((← World.run r.id).stateAt key))
        throw (.illegalMove now.status .running)
      | some _ =>
        let _ ← World.update r.id [(key, .finish .completed input)]
        return .walk key

def inputFor (p : Plan) (r : Run) (n : PlanNode) (key : String) (s : NodeState) :
    Except Failure Json :=
  match r.instance? key with
  | some k => do
    let mapping ← itemMapping p k.template (p.parents k.template)
    Failure.ofPath (Mapping.instanceInput s.output mapping)
  | none => nodeInput p r n

def retry (settings : Settings) (p : Plan) (r : Run) (key : String) : Action Outcome := do
  match r.state? key with
  | none => throw (.unknownKey r.id key)
  | some s =>
    if s.status ≠ .failed then throw (.illegalMove s.status .running)
    else
      match p.node? (r.template key) with
      | none => return .nothing
      | some n =>
        let input ← World.lift (inputFor p r n key s)
        runHandler settings p r n key input .failed

def anyPending (r : Run) : List String → Except Failure Bool
  | [] => .ok false
  | key :: rest => do
    let s ← Failure.ofMissing (r.stateAt key)
    if s.status = .pending then return true else anyPending r rest

def isOpen (r : Run) (id : String) : Except Failure Bool :=
  if r.hasInstances id then anyPending r (instanceTexts r id)
  else .ok ((r.state? id).any fun s => s.status == .pending)

def frontier (p : Plan) (r : Run) : List String → Except Failure (List String)
  | [] => .ok []
  | id :: rest => do
    let ready ← if ← isOpen r id then isReady p r id else pure false
    let others ← frontier p r rest
    return if ready then id :: others else others

def reconcile (p : Plan) (r : Run) : Action Outcome :=
  match p.levels? with
  | none => throw .cyclicPlan
  | some levels => do return .fire (← World.lift (frontier p r levels.flatten))

def handle (settings : Settings) (p : Plan) (r : Run) : Message → Action Outcome
  | .walk key => walk p r key
  | .fire id => fire settings p r id
  | .callback key c => report p r key c
  | .resume key input => resume r key input
  | .retry key => retry settings p r key
  | .reconcile => reconcile p r

end Workflow.Engine
