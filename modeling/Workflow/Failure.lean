import Workflow.Address.Basic
import Workflow.Graph.NodeKind
import Workflow.Instant
import Workflow.Json.Path
import Workflow.Status
import Workflow.Text.Quoted
import Workflow.Validation.Finding

namespace Workflow

inductive Mishap where
  | addressNotText
  | badAddress (fault : Address.Fault)
  | noHost (target : String)
deriving DecidableEq, Repr

def Mishap.message : Mishap → String
  | .addressNotText => "Address is not a text"
  | .badAddress fault => fault.message
  | .noHost target => s!"unknown url type: {Text.quoted target}"

inductive StoreTable where
  | flows
  | versions
  | runs
deriving DecidableEq, Repr

def StoreTable.name : StoreTable → String
  | .flows => "flows"
  | .versions => "flow_versions"
  | .runs => "runs"

inductive Failure where
  | illegalMove (source target : Status)
  | flowNotFound (id : String)
  | versionNotFound (id : String)
  | runNotFound (id : String)
  | concurrentUpdate (runId : String) (expected actual : Int)
  | unknownKey (runId key : String)
  | unknownState (runId key : String)
  | noEntry (key : String)
  | badIndex (segment : String) (fault : Text.NumeralFault)
  | instancesExist (runId template : String)
  | instanceCollision (key : String)
  | notExecutable (kind : NodeKind)
  | pathNotText (kindName : String)
  | undelivered (mishap : Mishap)
  | invalidCanvas (findings : List Finding)
  | duplicateId (table : StoreTable)
  | missingReference
  | revisionTooLarge
  | invalidRow (issues : List Issue)
  | time (fault : Instant.Fault)
  | cyclicPlan
  /-- Nodes fanned out over nothing lead to one another in a circle, so that a step has no end. -/
  | circularWalk
deriving DecidableEq, Repr

namespace Failure

def illegalMoveText (source target : Status) : String :=
  s!"Invalid status transition: {source.name} -> {target.name}. " ++
    s!"Allowed from {source.name}: {source.successorsText}"

def message : Failure → String
  | .illegalMove source target => illegalMoveText source target
  | .flowNotFound id => s!"Flow not found: {id}"
  | .versionNotFound id => s!"Version not found: {id}"
  | .runNotFound id => s!"Run not found: {id}"
  | .concurrentUpdate runId expected actual =>
    s!"Run {runId} was modified concurrently (expected revision {expected}, found {actual})"
  | .unknownKey runId key => s!"Run {runId} has no node '{key}'"
  | .unknownState runId key => s!"Run {runId} has no node state '{key}'"
  | .noEntry key => key
  | .badIndex segment .notDecimal =>
    s!"invalid literal for int() with base 10: {Text.firstOf 200 (Text.quoted segment)}"
  | .badIndex _ (.tooLong digits) => Text.tooLongText digits
  | .instancesExist runId template =>
    s!"Parallel instances for '{template}' already exist in run {runId}"
  | .instanceCollision key => s!"Instance key '{key}' collides with an existing node"
  | .notExecutable kind => s!"Unknown node type: {kind.symbolName}"
  | .pathNotText kindName => s!"'{kindName}' object has no attribute 'startswith'"
  | .undelivered mishap => mishap.message
  | .invalidCanvas findings =>
    s!"Graph validation failed with {findings.length} error(s): " ++
      "; ".intercalate (findings.map (·.message))
  | .duplicateId table => s!"UNIQUE constraint failed: {table.name}.id"
  | .missingReference => "FOREIGN KEY constraint failed"
  | .revisionTooLarge => "Python int too large to convert to SQLite INTEGER"
  | .invalidRow issues => s!"Invalid row with {issues.length} issue(s)"
  | .time fault => fault.message
  | .cyclicPlan => "Graph contains a cycle or graph changed during iteration"
  | .circularWalk => "Walk goes around in a circle"

def isLookup : Failure → Bool
  | .unknownKey _ _ | .unknownState _ _ | .noEntry _ => true
  | _ => false

def text (f : Failure) : String := if f.isLookup then Text.quoted f.message else f.message

end Failure

end Workflow
