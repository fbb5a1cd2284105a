import Workflow.Engine.Drain

/-!
What follows a step: its requests are delivered in order, and a refused request fails its node. Each
failure is a step of its own, whose requests are delivered before the next failure is handled.
-/

namespace Workflow

structure Engine where
  settings : Settings
  dispatcher : Dispatcher

namespace Engine

def send (e : Engine) (q : Request) : Action Delivery := do
  let w ← get
  let d := e.dispatcher w.sent q
  set { w with sent := w.sent ++ [Sending.mk q d] }
  return d

def sendAll (e : Engine) : List Request → Action (List Sending)
  | [] => return []
  | q :: rest => do
    let d ← e.send q
    return ⟨q, d⟩ :: (← sendAll e rest)

def refusal? (s : Sending) : Option (String × Callback) :=
  match s.delivery.result with
  | .refused refusal => some (s.request.nodeKey, .failure refusal.message)
  | _ => none

def mishap? (s : Sending) : Option Mishap :=
  match s.delivery.result with
  | .failed mishap => some mishap
  | _ => none

def deliver (e : Engine) (requests : List Request) : Action (List (String × Callback)) := do
  let sendings ← e.sendAll requests
  match sendings.findSome? mishap? with
  | some mishap => throw (.undelivered mishap)
  | none => return sendings.filterMap refusal?

def stepAndDeliver (e : Engine) (runId : String) (queue : List Message) :
    Action (List (String × Callback)) := do e.deliver (← drain e.settings runId queue)

/-- Handles failures first in, first out. The budget is what was left when something was last used
up; a failure that uses nothing up, because its node is not running any more, has no failures to
follow. -/
def settleWithin (e : Engine) (runId : String) (budget : Effort)
    (failures : List (String × Callback)) : Action Unit := fun w =>
  match failures with
  | [] => .ok () w
  | (key, c) :: rest =>
    match e.stepAndDeliver runId [.callback key c] w with
    | .error f w' => .error f w'
    | .ok more w' =>
      let budget' := effort w' runId []
      if _h : budget'.Less budget then settleWithin e runId budget' (rest ++ more) w'
      else if more.isEmpty then settleWithin e runId budget rest w'
      else .error .circularWalk w'
termination_by (budget.commands, budget.whole, budget.moves, failures.length)
decreasing_by
  · exact budget'.lex_of_less budget _ _ _h
  · exact Prod.Lex.right _ (Prod.Lex.right _ (Prod.Lex.right _ (by simp)))

def advance (e : Engine) (runId : String) (queue : List Message) : Action Unit := do
  let failures ← e.stepAndDeliver runId queue
  let w ← get
  e.settleWithin runId (effort w runId []) failures

end Engine

end Workflow
