import Workflow.Named

/-!
Kinds of nodes. Sections and their items are presentation; the other kinds are executed.
-/

namespace Workflow

inductive NodeKind where
  | worker
  | ux
  | splitter
  | collector
  | frame
  | frameItem
deriving DecidableEq, Repr

namespace NodeKind

instance : Named NodeKind where
  all := [.worker, .ux, .splitter, .collector, .frame, .frameItem]
  name
    | .worker => "Worker"
    | .ux => "UX"
    | .splitter => "Splitter"
    | .collector => "Collector"
    | .frame => "Section"
    | .frameItem => "SectionItem"

def isPresentation : NodeKind → Bool
  | .frame | .frameItem => true
  | _ => false

def symbolName : NodeKind → String
  | .worker => "NodeType.WORKER"
  | .ux => "NodeType.UX"
  | .splitter => "NodeType.SPLITTER"
  | .collector => "NodeType.COLLECTOR"
  | .frame => "NodeType.SECTION"
  | .frameItem => "NodeType.SECTION_ITEM"

end NodeKind

end Workflow
