import Workflow.Failure
import Workflow.Run.Document
import Workflow.Store.Event
import Workflow.Store.Flow
import Workflow.Store.Update

/-!
The store: flows, their versions and runs, and the log of events. Every write either takes place
as a whole, with its events, or changes nothing.
-/

namespace Workflow

structure Store where
  flows : List Flow
  versions : List FlowVersion
  runs : List Run
  events : List Event
deriving DecidableEq, Repr

namespace Store

def empty : Store := ⟨[], [], [], []⟩

def flow? (s : Store) (id : String) : Option Flow := s.flows.find? fun f => f.id = id

def version? (s : Store) (id : String) : Option FlowVersion := s.versions.find? fun v => v.id = id

def run? (s : Store) (id : String) : Option Run := s.runs.find? fun r => r.id = id

def log (s : Store) (e : Event) : Store :=
  { s with events := s.events ++ [{ e with id := some (s.events.length + 1 : Nat) }] }

def logAll (s : Store) (es : List Event) : Store := es.foldl log s

def flowCreated (now : Instant) (f : Flow) : Event where
  id := none
  kind := .flowCreated
  flowId := some f.id
  runId := none
  nodeKey := none
  status := none
  payload := [("name", .str f.name), ("canvas_type", .str f.canvasType)]
  timestamp := now

def versionCreated (now : Instant) (v : FlowVersion) : Event where
  id := none
  kind := .versionCreated
  flowId := some v.flowId
  runId := none
  nodeKey := none
  status := none
  payload := [("version_id", .str v.id), ("commit_message", .ofText? v.message)]
  timestamp := now

def runStarted (now : Instant) (r : Run) : Event where
  id := none
  kind := .runStarted
  flowId := some r.flowId
  runId := some r.id
  nodeKey := none
  status := none
  payload :=
    [("flow_version_id", .str r.versionId), ("entity_id", .ofText? r.entityId),
      ("trigger", r.trigger.view.dump)]
  timestamp := now

def createFlow (now : Instant) (f : Flow) (s : Store) : Except Failure Store :=
  match s.flow? f.id with
  | some _ => .error (.duplicateId .flows)
  | none => .ok ({ s with flows := s.flows ++ [f] }.log (flowCreated now f))

def pointAt (now : Instant) (v : FlowVersion) (f : Flow) : Flow :=
  if f.id = v.flowId then { f with currentVersionId := some v.id, updatedAt := now } else f

def insertVersion (now : Instant) (v : FlowVersion) (s : Store) : Except Failure Store :=
  match s.flow? v.flowId, s.version? v.id with
  | none, _ => .error (.flowNotFound v.flowId)
  | some _, some _ => .error (.duplicateId .versions)
  | some _, none =>
    .ok ({ s with
      flows := s.flows.map (pointAt now v)
      versions := s.versions ++ [v.written] }.log (versionCreated now v))

def listVersions (s : Store) (flowId : String) : List VersionEntry :=
  ((s.versions.filter fun v => v.flowId = flowId).reverse.mergeSort fun a b =>
    b.createdAt.sortText ≤ a.createdAt.sortText).map .ofVersion

def holdsRevision (n : Int) : Bool := -(Binary64.twoTo 63 : Int) ≤ n && n < Binary64.twoTo 63

def createRun (now : Instant) (r : Run) (s : Store) : Except Failure Store :=
  if !holdsRevision r.revision then .error .revisionTooLarge
  else
    match s.run? r.id, s.flow? r.flowId, s.version? r.versionId with
    | some _, _, _ => .error (.duplicateId .runs)
    | none, some _, some _ => .ok ({ s with runs := s.runs ++ [r] }.log (runStarted now r))
    | none, _, _ => .error .missingReference

/-- Reads a row. A revision that was raised beyond what rows hold makes it unreadable. -/
def readRow (r : Run) : Except Failure Run :=
  if holdsRevision r.revision then .ok r
  else .error (.invalidRow [⟨[.member "revision"], .oversizedInteger⟩])

def readRun (s : Store) (id : String) : Except Failure (Option Run) :=
  match s.run? id with
  | some r => some <$> readRow r
  | none => .ok none

def listRuns (s : Store) (flowId : Option String) : Except Failure (List Run) :=
  ((s.runs.filter fun r => flowId.all (· = r.flowId)).mergeSort fun a b =>
    a.createdAt.sortText ≤ b.createdAt.sortText).mapM readRow

def findEvents (s : Store) (flowId runId : Option String) (kinds : List EventKind) : List Event :=
  s.events.filter fun e =>
    flowId.all (fun id => e.flowId == some id) && runId.all (fun id => e.runId == some id) &&
      (kinds.isEmpty || kinds.contains e.kind)

end Store

end Workflow
