import Workflow.Run.Basic

/-!
Changes of one node's state. Output and error change only if the update gives them.
-/

namespace Workflow

structure NodeUpdate where
  status? : Option (Option Status)
  output? : Option Json
  error? : Option (Option String)
deriving DecidableEq, Repr

namespace NodeUpdate

def status (u : NodeUpdate) : Option Status := u.status?.join

def toStatus (s : Status) : NodeUpdate := ⟨some (some s), none, none⟩

def finish (s : Status) (output : Json) : NodeUpdate := ⟨some (some s), some output, none⟩

def fail (error : String) : NodeUpdate := ⟨some (some .failed), none, some (some error)⟩

def apply (now : Instant) (u : NodeUpdate) (s : NodeState) : NodeState where
  status := u.status.getD s.status
  output := u.output?.getD s.output
  error := u.error?.getD s.error
  startedAt := if u.status = some .running then some now else s.startedAt
  updatedAt := some now

def read : Reader NodeUpdate :=
  Reader.record "NodeUpdate" fun ms =>
    mk <$> Reader.given ms (.plain "status") (Reader.nullable (Reader.enumerated Status))
      <*> Reader.given ms (.plain "output") Reader.written
      <*> Reader.given ms (.plain "error") (Reader.nullable Reader.text)

def view (u : NodeUpdate) : View :=
  .record
    [View.fieldOf (.plain "status") (.nullable .named) u.status? (.plain .null),
      View.fieldOf (.plain "output") .untyped u.output? (.plain .null),
      View.fieldOf (.plain "error") .text? u.error? (.plain .null)]
    []

end NodeUpdate

end Workflow
