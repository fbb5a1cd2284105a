import Workflow.Engine.Operations

/-!
Giving up on workers that never report: a node that has been running for too long fails as if its
worker had said so, and a report that comes later is ignored.
-/

namespace Workflow.Watchdog

def timeoutText (timeout : Floating) : String := s!"Worker timed out after {timeout.briefText}s"

def isStale (cutoff : Instant) (s : NodeState) : Bool :=
  s.status == .running && s.startedAt.any fun t => t.micros ≤ cutoff.micros

def sweepKeys (e : Engine) (timeout : Floating) (cutoff : Instant) (r : Run) :
    List String → Action (List (String × String))
  | [] => return []
  | key :: rest => do
    let s ← World.lift (Failure.ofMissing (r.stateAt key))
    if isStale cutoff s then
      let _ ← e.handleCallback r.id key (.failure (timeoutText timeout))
      return (r.id, key) :: (← sweepKeys e timeout cutoff r rest)
    else sweepKeys e timeout cutoff r rest

def sweepRuns (e : Engine) (timeout : Floating) (cutoff : Instant) :
    List Run → Action (List (String × String))
  | [] => return []
  | r :: rest => do
    let here ← sweepKeys e timeout cutoff r r.effectiveKeys
    return here ++ (← sweepRuns e timeout cutoff rest)

/-- Fails every node that has been running for the timeout or longer at the time `now`, and gives
its run and key. -/
def sweep (e : Engine) (timeout : Floating) (now : Instant) : Action (List (String × String)) := do
  let cutoff ← World.lift ((now.earlier timeout).mapError .time)
  sweepRuns e timeout cutoff (← World.listRuns none)

def sleep (seconds : Binary64) : Action Unit :=
  modify fun w => { w with now := w.now.plus (Instant.durationMicros seconds) }

def watch (e : Engine) (timeout : Floating) (interval : Binary64) : Nat → Action Unit
  | 0 => return
  | rounds + 1 => do
    tryCatch (do let _ ← sweep e timeout (← get).now) fun _ => return
    sleep interval
    watch e timeout interval rounds

end Workflow.Watchdog
