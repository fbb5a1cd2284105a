import Workflow.Engine.Advance

/-!
A step of a run: its messages are handled first in, first out, until none is left. What handling a
message brings about joins the end of the queue.

A step ends because its messages use something up: they answer a command, fan a node out, or move a
state on. Between two that do, walks follow the edges of the plan, through nodes fanned out over
nothing, and in a plan without cycles there are only so many of them.
-/

namespace Workflow

def Status.movesLeft : Status → Nat
  | .pending => 2
  | .running | .waitingForUser => 1
  | .completed | .failed => 0

namespace Engine

def Message.isCommand : Message → Bool
  | .walk _ | .fire _ => false
  | _ => true

/-- What a step can still use up. -/
structure Effort where
  commands : Nat
  whole : Nat
  moves : Nat
deriving DecidableEq, Repr

namespace Effort

def Less (a b : Effort) : Prop :=
  a.commands < b.commands ∨
    a.commands = b.commands ∧ (a.whole < b.whole ∨ a.whole = b.whole ∧ a.moves < b.moves)

instance (a b : Effort) : Decidable (Less a b) :=
  inferInstanceAs (Decidable (_ ∨ _ ∧ (_ ∨ _ ∧ _)))

theorem lex_of_less (a b : Effort) (m n : Nat) (h : a.Less b) :
    Prod.Lex (· < ·) (Prod.Lex (· < ·) (Prod.Lex (· < ·) (· < ·)))
      (a.commands, a.whole, a.moves, m) (b.commands, b.whole, b.moves, n) := by
  rcases h with h | ⟨h, h' | ⟨h', h''⟩⟩
  · exact Prod.Lex.left _ _ h
  · exact h ▸ Prod.Lex.right _ (Prod.Lex.left _ _ h')
  · exact h ▸ Prod.Lex.right _ (h' ▸ Prod.Lex.right _ (Prod.Lex.left _ _ h''))

end Effort

def wholeNodes (p : Plan) (r : Run) : Nat := (p.nodeIds.filter fun id => !r.hasInstances id).length

def movesLeft (r : Run) : Nat :=
  (Keyed.values r.states).foldl (fun n s => n + s.status.movesLeft) 0

def effort (w : World) (runId : String) (queue : List Message) : Effort where
  commands := (queue.filter Message.isCommand).length + w.rival.toList.length
  whole :=
    match w.store.run? runId with
    | none => 0
    | some r => ((w.store.version? r.versionId).map fun v => wholeNodes v.plan r).getD 0
  moves := ((w.store.run? runId).map movesLeft).getD 0

/-- How many messages can come of a queue of walks and fires that use nothing up. -/
def patience (w : World) (runId : String) (queue : List Message) : Nat :=
  match (w.store.run? runId).bind fun r => w.store.version? r.versionId with
  | none => 0
  | some v => queue.length * Nat.pow (v.plan.edges.length + 2) (v.plan.nodes.length + 1)

def step (settings : Settings) (runId : String) (m : Message) : Action Outcome := do
  let r ← World.run runId
  let v ← World.version r.versionId
  handle settings v.plan r m

/-- Handles the queue, and gives the collected requests. The budget is what was left when
something was last used up, and the patience bounds the messages until the next time. -/
def drainWithin (settings : Settings) (runId : String) (budget : Effort) (waiting : Nat)
    (queue : List Message) (requests : List Request) : Action (List Request) := fun w =>
  match queue with
  | [] => .ok requests w
  | m :: rest =>
    match step settings runId m w with
    | .error f w' => .error f w'
    | .ok o w' =>
      let queue' := rest ++ o.messages
      let budget' := effort w' runId queue'
      if _h : budget'.Less budget then
        drainWithin settings runId budget' (patience w' runId queue') queue'
          (requests ++ o.requests) w'
      else
        match waiting with
        | 0 => .error .circularWalk w'
        | waiting + 1 =>
          drainWithin settings runId budget waiting queue' (requests ++ o.requests) w'
termination_by (budget.commands, budget.whole, budget.moves, waiting)
decreasing_by
  · exact budget'.lex_of_less budget _ _ _h
  · exact Prod.Lex.right _ (Prod.Lex.right _ (Prod.Lex.right _ (Nat.lt_succ_self _)))

def drain (settings : Settings) (runId : String) (queue : List Message) :
    Action (List Request) := do
  let w ← get
  let requests ←
    drainWithin settings runId (effort w runId queue) (patience w runId queue) queue []
  match ← World.run? runId with
  | none => return requests
  | some r =>
    let _ ← World.lift (Failure.ofMissing r.isFinished)
    return requests

end Engine

end Workflow
