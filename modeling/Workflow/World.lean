import Workflow.Dispatch.Delivery
import Workflow.Store.Runs

/-!
The state that operations work on: the store, the clock, how many ids have been drawn, the requests
handed to workers, and at most one write of another process that is about to take place.
-/

namespace Workflow

inductive WriteKind where
  | claim
  | update
  | register
deriving DecidableEq, Repr

/-- A batch of updates that another process writes just before the next write of a kind. -/
structure RivalWrite where
  before : WriteKind
  runId : String
  updates : List (String × NodeUpdate)
deriving DecidableEq, Repr

structure World where
  store : Store
  now : Instant
  issued : Nat
  sent : List Sending
  rival : Option RivalWrite
deriving DecidableEq, Repr

/-- An operation. One that fails keeps what was written before. -/
abbrev Action := EStateM Failure World

namespace World

def start : World := ⟨.empty, .epoch2024, 0, [], none⟩

def drawId : Action String := do
  let w ← get
  set { w with issued := w.issued + 1 }
  return s!"id-{w.issued + 1}"

def write {α : Type} (f : Instant → Store → Except Failure (α × Store)) : Action α := do
  let w ← get
  match f w.now w.store with
  | .ok (a, store) =>
    set { w with store }
    return a
  | .error failure => throw failure

def writeStore (f : Instant → Store → Except Failure Store) : Action Unit :=
  write fun now s => (f now s).map fun s => ((), s)

/-- Lets the other process write first, if it waits for a write of this kind. -/
def letRival (kind : WriteKind) : Action Unit := do
  let w ← get
  match w.rival with
  | none => return
  | some rival =>
    if rival.before = kind then
      set { w with rival := none }
      let _ ← write fun now => Store.update now rival.runId rival.updates none
    else return

def update (runId : String) (updates : List (String × NodeUpdate)) : Action Run := do
  letRival .update
  write fun now => Store.update now runId updates none

def updateExpecting (runId : String) (updates : List (String × NodeUpdate))
    (expected : Option Int) : Action Run := do
  letRival .update
  write fun now => Store.update now runId updates expected

def claim (runId key : String) (sources : List Status) (target : Status) : Action (Option Run) := do
  letRival .claim
  write fun now => Store.claim now runId key sources target

def register (runId : String) (instances : List (String × List NodeState))
    (updates : List (String × NodeUpdate)) : Action Run := do
  letRival .register
  write fun now => Store.register now runId instances updates

def logEvent (e : Event) : Action Nat := do
  writeStore fun _ s => .ok (s.log e)
  return (← get).store.events.length

def lift {α : Type} (r : Except Failure α) : Action α :=
  match r with
  | .ok a => return a
  | .error f => throw f

def run? (runId : String) : Action (Option Run) := do lift ((← get).store.readRun runId)

def listRuns (flowId : Option String) : Action (List Run) := do
  lift ((← get).store.listRuns flowId)

def run (runId : String) : Action Run := do
  match ← run? runId with
  | some r => return r
  | none => throw (.runNotFound runId)

def version? (id : String) : Action (Option FlowVersion) := return (← get).store.version? id

def version (id : String) : Action FlowVersion := do
  match ← version? id with
  | some v => return v
  | none => throw (.versionNotFound id)

end World

end Workflow
