import Workflow.Plan.Order
import Workflow.Proofs.Graph.Generations
import Workflow.Proofs.Plan.Compiled

/-! The levels of a compiled plan hold all of its nodes. -/

namespace Workflow.Plan

variable {p : Plan} (h : p.WellFormed)
include h

lemma mem_edges_iff_children {s t : String} : (s, t) ∈ p.edges ↔ t ∈ p.children s :=
  mem_parents_iff.symm.trans h.parents_iff

lemma digraph_acyclic : p.digraph.Acyclic where
  nodes_nodup := nodup_eraseDups _
  edges_nodup := nodup_eraseDups _
  source_mem {n c} he := by
    simp only [digraph, Digraph.ofEdges, List.mem_eraseDups, List.mem_append,
      List.mem_flatMap] at he ⊢
    exact .inr ⟨_, he, by simp⟩
  target_mem {n c} he := by
    simp only [digraph, Digraph.ofEdges, List.mem_eraseDups, List.mem_append,
      List.mem_flatMap] at he ⊢
    exact .inr ⟨_, he, by simp⟩
  upward := by
    simpa only [digraph, Digraph.ofEdges, List.mem_eraseDups, mem_edges_iff_children h]
      using h.upward

lemma mem_digraph_nodes {n : String} : n ∈ p.digraph.nodes ↔ n ∈ p.nodeIds := by
  simp only [digraph, Digraph.ofEdges, List.mem_eraseDups, List.mem_append, List.mem_flatMap,
    or_iff_left_iff_imp]
  rintro ⟨⟨s, t⟩, he, hn⟩
  have hc := (mem_edges_iff_children h).mp he
  simp only [List.mem_cons, List.not_mem_nil, or_false] at hn
  rcases hn with rfl | rfl
  · exact h.parent_mem hc
  · exact h.child_mem hc

theorem levels_complete :
    ∃ levels, p.levels? = some levels ∧ ∀ n, n ∈ levels.flatten ↔ n ∈ p.nodeIds := by
  obtain ⟨layers, hl, hperm⟩ := Digraph.generations_complete (digraph_acyclic h)
  refine ⟨_, by rw [levels?, hl]; rfl, fun n => ?_⟩
  rw [← mem_digraph_nodes h, ← hperm.mem_iff]
  simp [List.mem_flatten]

end Workflow.Plan
