import Workflow.Engine.Input
import Workflow.Run.Callback
import Workflow.Settings
import Workflow.World

/-!
The messages that a step of a run handles, and what handling one brings about.
-/

namespace Workflow.Engine

inductive Message where
  | walk (key : String)
  | fire (node : String)
  | callback (key : String) (callback : Callback)
  | resume (key : String) (input : Json)
  | retry (key : String)
  | reconcile
deriving DecidableEq, Repr

structure Outcome where
  messages : List Message
  requests : List Request
deriving DecidableEq, Repr

namespace Outcome

def nothing : Outcome := ⟨[], []⟩

def walk (key : String) : Outcome := ⟨[.walk key], []⟩

def send (request : Request) : Outcome := ⟨[], [request]⟩

def fire (nodes : List String) : Outcome := ⟨nodes.map .fire, []⟩

def append (a b : Outcome) : Outcome := ⟨a.messages ++ b.messages, a.requests ++ b.requests⟩

end Outcome

end Workflow.Engine
