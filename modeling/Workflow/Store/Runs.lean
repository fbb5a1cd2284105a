import Workflow.Store.Basic

/-!
Writes of a run's row: batches of node updates, claims, and the registration of parallel instances.
Each write checks everything against the row it reads, and raises the row's revision by one.
-/

namespace Workflow.Store

structure Draft where
  run : Run
  events : List Event
deriving DecidableEq, Repr

def statusChanged (now : Instant) (r : Run) (key : String) (source target : Status)
    (error : Option String) : Event where
  id := none
  kind := .nodeStatusChanged
  flowId := some r.flowId
  runId := some r.id
  nodeKey := some key
  status := some target.name
  payload :=
    ("from", .str source.name) :: if target = .failed then [("error", .ofText? error)] else []
  timestamp := now

def checkUpdates (r : Run) : List (String × NodeUpdate) → Except Failure Unit
  | [] => .ok ()
  | (key, u) :: rest =>
    match r.state? key, u.status with
    | none, _ => .error (.unknownState r.id key)
    | some _, none => checkUpdates r rest
    | some s, some target =>
      if s.status.canBecome target then checkUpdates r rest
      else .error (.illegalMove s.status target)

def applyUpdate (now : Instant) (d : Draft) (change : String × NodeUpdate) : Draft :=
  let (key, u) := change
  match d.run.state? key with
  | none => d
  | some before =>
    let after := u.apply now before
    let run := { d.run with states := Keyed.set d.run.states key after }
    match u.status with
    | none => { d with run }
    | some target =>
      ⟨run, d.events ++ [statusChanged now run key before.status target after.error]⟩

def applyUpdates (now : Instant) (updates : List (String × NodeUpdate)) (d : Draft) :
    Except Failure Draft := do
  checkUpdates d.run updates
  return updates.foldl (applyUpdate now) d

def save (now : Instant) (d : Draft) (s : Store) : Run × Store :=
  let run := { d.run with revision := d.run.revision + 1, updatedAt := now }
  let runs := s.runs.map fun (r : Run) => if r.id = run.id then run else r
  (run, { s with runs }.logAll d.events)

def row (s : Store) (runId : String) : Except Failure Run :=
  match s.run? runId with
  | some r => readRow r
  | none => .error (.runNotFound runId)

def update (now : Instant) (runId : String) (updates : List (String × NodeUpdate))
    (expected : Option Int) (s : Store) : Except Failure (Run × Store) := do
  let r ← s.row runId
  match expected with
  | some revision =>
    if r.revision ≠ revision then throw (.concurrentUpdate runId revision r.revision)
  | none => pure ()
  return s.save now (← applyUpdates now updates ⟨r, []⟩)

def claim (now : Instant) (runId key : String) (sources : List Status) (target : Status)
    (s : Store) : Except Failure (Option Run × Store) := do
  let r ← s.row runId
  match r.state? key with
  | none => throw (.unknownState runId key)
  | some state =>
    if sources.contains state.status then
      let (run, s) := s.save now (← applyUpdates now [(key, .toStatus target)] ⟨r, []⟩)
      return (some run, s)
    else return (none, s)

def instancesCreated (now : Instant) (r : Run) (template : String) (keys : List String) :
    Event where
  id := none
  kind := .instancesCreated
  flowId := some r.flowId
  runId := some r.id
  nodeKey := some template
  status := none
  payload := [("instances", .ofStrings keys)]
  timestamp := now

def addStates (template : String) (r : Run) (index : Nat) : List NodeState → Except Failure Run
  | [] => .ok r
  | state :: rest =>
    let key := InstanceKey.text ⟨template, index⟩
    if Keyed.has r.states key then .error (.instanceCollision key)
    else addStates template { r with states := Keyed.set r.states key state } (index + 1) rest

def firstInstances (template : String) (n : Nat) : List String :=
  (List.range n).map fun (i : Nat) => InstanceKey.text ⟨template, i⟩

def addInstances (now : Instant) (d : Draft) (template : String) (states : List NodeState) :
    Except Failure Draft := do
  if !Keyed.has d.run.states template then throw (.unknownState d.run.id template)
  if d.run.hasInstances template then throw (.instancesExist d.run.id template)
  let r ← addStates template d.run 0 states
  let indices := (List.range states.length).map fun (i : Nat) => (i : Int)
  let created := instancesCreated now r template (firstInstances template states.length)
  return ⟨{ r with instances := Keyed.set r.instances template indices }, d.events ++ [created]⟩

def register (now : Instant) (runId : String) (instances : List (String × List NodeState))
    (updates : List (String × NodeUpdate)) (s : Store) : Except Failure (Run × Store) := do
  let r ← s.row runId
  let d ← instances.foldlM (fun d e => addInstances now d e.1 e.2) ⟨r, []⟩
  return s.save now (← applyUpdates now updates d)

/-- The states for new instances as they are handed over: an instance names its state by its place,
and instances that name one place share one state. -/
structure Handover where
  states : List NodeState
  instances : List (String × List (Fin states.length))
deriving DecidableEq, Repr

namespace Handover

def valued (h : Handover) : List (String × List NodeState) :=
  h.instances.map fun e => (e.1, e.2.map fun place => h.states[place])

def keysOf (template : String) (index : Nat) {n : Nat} : List (Fin n) → Keyed (Fin n)
  | [] => []
  | place :: rest => (InstanceKey.text ⟨template, index⟩, place) :: keysOf template (index + 1) rest

def places (h : Handover) : Keyed (Fin h.states.length) :=
  h.instances.flatMap fun e => keysOf e.1 0 e.2

def sharers (h : Handover) (key : String) : List String :=
  if Keyed.has h.places key then
    (Keyed.keys h.places).filter fun k => Keyed.find? h.places k = Keyed.find? h.places key
  else [key]

end Handover

def applyShared (now : Instant) (sharers : String → List String) (d : Draft)
    (change : String × NodeUpdate) : Draft :=
  let (key, u) := change
  match d.run.state? key with
  | none => d
  | some before =>
    let after := u.apply now before
    let states := (sharers key).foldl (fun states k => Keyed.set states k after) d.run.states
    let run := { d.run with states }
    match u.status with
    | none => { d with run }
    | some target =>
      ⟨run, d.events ++ [statusChanged now run key before.status target after.error]⟩

/-- Registers instances with the states that are handed over for them, together with a batch of
updates. The updates are checked before the first of them changes a state. -/
def enroll (now : Instant) (runId : String) (h : Handover) (updates : List (String × NodeUpdate))
    (s : Store) : Except Failure (Run × Store) := do
  let r ← s.row runId
  let d ← h.valued.foldlM (fun d e => addInstances now d e.1 e.2) ⟨r, []⟩
  checkUpdates d.run updates
  return s.save now (updates.foldl (applyShared now h.sharers) d)

end Workflow.Store
