import Workflow.Document.View

/-!
Where the entity of a run goes when a worker finishes.
-/

namespace Workflow

inductive Completion where
  | success
  | failure
  | neutral
deriving DecidableEq, Repr

instance : Named Completion where
  all := [.success, .failure, .neutral]
  name
    | .success => "success"
    | .failure => "failure"
    | .neutral => "neutral"

inductive EntityType where
  | customer
  | churned
  | lead
deriving DecidableEq, Repr

instance : Named EntityType where
  all := [.customer, .churned, .lead]
  name
    | .customer => "customer"
    | .churned => "churned"
    | .lead => "lead"

structure MovementAction where
  targetSection : String
  completeAs : Completion
  setEntityType? : Option (Option EntityType)
deriving DecidableEq, Repr

namespace MovementAction

def targetField : FieldName := ⟨"targetSectionId", "target_section_id"⟩

def completeField : FieldName := ⟨"completeAs", "complete_as"⟩

def entityTypeField : FieldName := ⟨"setEntityType", "set_entity_type"⟩

def entityType (a : MovementAction) : Option EntityType := a.setEntityType?.join

def read : Reader MovementAction :=
  Reader.record "EntityMovementAction" fun ms =>
    mk <$> Reader.required ms targetField Reader.text
      <*> Reader.required ms completeField (Reader.literal Completion)
      <*> Reader.given ms entityTypeField (Reader.nullable (Reader.literal EntityType))

def view (a : MovementAction) : View :=
  .record
    [View.field targetField (.text a.targetSection),
      View.field completeField (.named a.completeAs),
      View.fieldOf entityTypeField (.nullable .named) a.setEntityType? (.plain .null)]
    []

end MovementAction

structure Movements where
  onSuccess? : Option (Option MovementAction)
  onFailure? : Option (Option MovementAction)
deriving DecidableEq, Repr

namespace Movements

def successField : FieldName := ⟨"onSuccess", "on_success"⟩

def failureField : FieldName := ⟨"onFailure", "on_failure"⟩

def onSuccess (m : Movements) : Option MovementAction := m.onSuccess?.join

def onFailure (m : Movements) : Option MovementAction := m.onFailure?.join

def read : Reader Movements :=
  Reader.record "EntityMovementConfig" fun ms =>
    mk <$> Reader.given ms successField (Reader.nullable MovementAction.read)
      <*> Reader.given ms failureField (Reader.nullable MovementAction.read)

def view (m : Movements) : View :=
  .record
    [View.fieldOf successField (.nullable MovementAction.view) m.onSuccess? (.plain .null),
      View.fieldOf failureField (.nullable MovementAction.view) m.onFailure? (.plain .null)]
    []

end Movements

end Workflow
