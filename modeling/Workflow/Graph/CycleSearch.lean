import Workflow.Graph.Digraph

/-!
Depth-first search for cycles: every edge that leads back to a node of the current path closes one.
-/

namespace Workflow.CycleSearch

structure Result (unseen : List String) where
  rest : List String
  cycles : List (List String)
  rest_le : rest.length ≤ unseen.length

/-- Explores nodes below the current path, which holds the latest node first. A cycle is given from
its first node on the path to the same node again. -/
def explore (next : String → List String) (unseen path : List String) :
    (waiting : List String) → Result unseen
  | [] => ⟨unseen, [], Nat.le_refl _⟩
  | n :: waiting =>
    if path.contains n then
      let r := explore next unseen path waiting
      ⟨r.rest, (n :: ((path.takeWhile (· ≠ n)).reverse ++ [n])) :: r.cycles, r.rest_le⟩
    else if h : n ∈ unseen then
      let below := explore next (unseen.erase n) (n :: path) (next n)
      let after := explore next below.rest path waiting
      have smaller := Nat.le_trans below.rest_le (Nat.le_of_lt (fewer_unseen h))
      ⟨after.rest, below.cycles ++ after.cycles, Nat.le_trans after.rest_le smaller⟩
    else
      let r := explore next unseen path waiting
      ⟨r.rest, r.cycles, r.rest_le⟩
termination_by waiting => (unseen.length, waiting.length)
decreasing_by
  · exact Prod.Lex.right _ (Nat.lt_succ_self _)
  · exact Prod.Lex.left _ _ (fewer_unseen h)
  · exact Prod.Lex.left _ _ (Nat.lt_of_le_of_lt below.rest_le (fewer_unseen h))
  · exact Prod.Lex.right _ (Nat.lt_succ_self _)

def cycles (nodes : List String) (next : String → List String) : List (List String) :=
  (explore next nodes [] nodes).cycles

end Workflow.CycleSearch
