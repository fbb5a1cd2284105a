import Workflow.Named

/-!
The status of a node in a run, and the moves between statuses. Completed is final; a failed node may
be started again, and one that waits for a person goes on by running.
-/

namespace Workflow

inductive Status where
  | pending
  | running
  | completed
  | failed
  | waitingForUser
deriving DecidableEq, Repr

namespace Status

instance : Named Status where
  all := [.pending, .running, .completed, .failed, .waitingForUser]
  name
    | .pending => "pending"
    | .running => "running"
    | .completed => "completed"
    | .failed => "failed"
    | .waitingForUser => "waiting_for_user"

def name (s : Status) : String := Named.name s

def ofName? (s : String) : Option Status := Named.ofName? s

def successors : Status → List Status
  | .pending => [.running]
  | .running => [.completed, .failed, .waitingForUser]
  | .completed => []
  | .failed => [.running]
  | .waitingForUser => [.running]

def canBecome (s t : Status) : Bool := s.successors.contains t

def isTerminal : Status → Bool
  | .completed | .failed => true
  | _ => false

def successorsText (s : Status) : String :=
  if s.successors.isEmpty then "(none, terminal)"
  else ", ".intercalate (s.successors.map name)

end Status

end Workflow
