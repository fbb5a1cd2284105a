import Workflow.Instant
import Workflow.Status

/-!
Runs: one execution of a version of a flow, with the state of every node and of every parallel
instance.
-/

namespace Workflow

structure NodeState where
  status : Status
  output : Json
  error : Option String
  startedAt : Option Instant
  updatedAt : Option Instant
deriving DecidableEq, Repr

namespace NodeState

/-- A node that has not been started; an instance holds its element as output until then. -/
def pending (output : Json) : NodeState := ⟨.pending, output, none, none, none⟩

end NodeState

inductive TriggerKind where
  | manual
  | webhook
  | api
  | schedule
deriving DecidableEq, Repr

instance : Named TriggerKind where
  all := [.manual, .webhook, .api, .schedule]
  name
    | .manual => "manual"
    | .webhook => "webhook"
    | .api => "api"
    | .schedule => "schedule"

structure Trigger where
  kind : TriggerKind
  source : Option String
  payload : Option (Keyed Json)
deriving DecidableEq, Repr

namespace Trigger

def byHand : Trigger := ⟨.manual, none, none⟩

end Trigger

structure InstanceKey where
  template : String
  index : Int
deriving DecidableEq, Repr

namespace InstanceKey

def text (k : InstanceKey) : String := s!"{k.template}_{k.index}"

end InstanceKey

structure Run where
  id : String
  flowId : String
  versionId : String
  entityId : Option String
  trigger : Trigger
  states : Keyed NodeState
  instances : Keyed (List Int)
  revision : Int
  createdAt : Instant
  updatedAt : Instant
deriving DecidableEq, Repr

namespace Run

def hasInstances (r : Run) (template : String) : Bool := Keyed.has r.instances template

def place (i : Int) : List Int → List Int
  | [] => [i]
  | j :: rest => if i ≤ j then i :: j :: rest else j :: place i rest

def ascending : List Int → List Int
  | [] => []
  | i :: rest => place i (ascending rest)

def instanceKeys (r : Run) (template : String) : List InstanceKey :=
  (ascending ((Keyed.find? r.instances template).getD [])).map fun i => ⟨template, i⟩

def instance? (r : Run) (key : String) : Option InstanceKey :=
  (r.instances.flatMap fun e => e.2.map fun i => ⟨e.1, i⟩).find? fun k => k.text = key

def template (r : Run) (key : String) : String := ((r.instance? key).map (·.template)).getD key

def state? (r : Run) (key : String) : Option NodeState := Keyed.find? r.states key

def allInstanceTexts (r : Run) : List String :=
  r.instances.flatMap fun e => (r.instanceKeys e.1).map (·.text)

/-- The keys of real work: templates with instances give way to their instances. -/
def effectiveKeys (r : Run) : List String :=
  let instances := r.allInstanceTexts
  (Keyed.keys r.states).flatMap fun key =>
    if instances.contains key then []
    else if r.hasInstances key then (r.instanceKeys key).map (·.text)
    else [key]

def stateAt (r : Run) (key : String) : Except String NodeState :=
  match r.state? key with
  | some s => .ok s
  | none => .error key

def tally (counts : Keyed Nat) (s : NodeState) : Keyed Nat :=
  Keyed.set counts s.status.name ((Keyed.find? counts s.status.name).getD 0 + 1)

def statusCounts (r : Run) : Except String (Keyed Nat) := do
  return (← r.effectiveKeys.mapM r.stateAt).foldl tally []

def allTerminal (r : Run) : List String → Except String Bool
  | [] => .ok true
  | key :: rest => do
    let s ← r.stateAt key
    if s.status.isTerminal then allTerminal r rest else return false

def isFinished (r : Run) : Except String Bool := r.allTerminal r.effectiveKeys

end Run

end Workflow
