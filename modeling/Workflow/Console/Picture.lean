/-!
What commands show: lines of markup, tables and trees. How they look on a screen is left to the
console.
-/

namespace Workflow

structure Table where
  title : String
  columns : List String
  rows : List (List String)
deriving DecidableEq, Repr

inductive Tree where
  | node (label : String) (children : List Tree)
deriving Repr

inductive Picture where
  | line (markup : String)
  | table (t : Table)
  | tree (t : Tree)
deriving Repr

mutual

def Tree.lines (depth : Nat) : Tree → List String
  | .node label children =>
    (String.ofList (List.replicate (2 * depth) ' ') ++ label) :: treeLines (depth + 1) children

def treeLines (depth : Nat) : List Tree → List String
  | [] => []
  | t :: ts => t.lines depth ++ treeLines depth ts

end

def rowLine (cells : List String) : String := " | ".intercalate cells

def Picture.lines : Picture → List String
  | .line markup => [markup]
  | .table t => t.title :: rowLine t.columns :: t.rows.map rowLine
  | .tree t => t.lines 0

end Workflow
