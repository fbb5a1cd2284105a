import Workflow.Proofs.Plan.Compiled
import Workflow.Validation.Paths

/-! Cycle findings: each shows a cycle of the executable part of a canvas, and without the edges
that close the cycles found no cycle is left. -/

namespace Workflow.Canvas

open CycleSearch

def links (c : Canvas) : List (String × String) :=
  c.executableEdges.map fun e => (e.source, e.target)

/-- No way along these edges leads back to where it starts. -/
def Acyclic (edges : List (String × String)) : Prop :=
  ∀ n, ¬ Relation.TransGen (fun a b => (a, b) ∈ edges) n n

variable {c : Canvas} {a b : String} {gone : List (String × String)}

def onward (c : Canvas) (id : String) : List String := (Keyed.find? c.adjacency id).getD []

lemma onward_eq : c.onward a = (c.links.filter fun e => e.1 = a).map Prod.snd := by
  rw [onward, find?_adjacency]
  split
  · simp [targetsFrom, links, List.filter_map, Function.comp_def]
  · rename_i ha
    have hnone : c.links.filter (fun e => e.1 = a) = [] := by
      simp only [links, List.filter_eq_nil_iff, List.forall_mem_map, decide_eq_true_eq]
      rintro e he rfl
      exact ha (mem_executableEdges.mp he).2.1
    simp [hnone]

lemma mem_onward : b ∈ c.onward a ↔ (a, b) ∈ c.links := by
  simp [onward_eq]

lemma count_onward : (c.onward a).count b = c.links.count (a, b) := by
  simp only [onward_eq, List.count, List.countP_map, List.countP_filter]
  apply List.countP_congr
  simp [Prod.ext_iff, and_comm]

lemma onward_eq_nil (h : a ∉ c.executableIds) : c.onward a = [] := by
  simp [onward, find?_adjacency, h]

lemma left_of_mem_diff (h : (a, b) ∈ c.links.diff gone) : Left c.onward gone a b := by
  have hpos := List.count_pos_iff.mpr h
  rw [List.count_diff] at hpos
  rw [Left, count_onward]
  omega

theorem checkCycles_sound_complete (c : Canvas) :
    Validation.checkCycles c = (Validation.canvasCycles c).map Validation.cycleFinding ∧
    (∀ path ∈ Validation.canvasCycles c, ∃ id inner, path = id :: (inner ++ [id]) ∧
      (Validation.cycleFinding path).node = some id ∧ (id :: inner).Nodup ∧
      ∀ step ∈ steps path, step ∈ c.links) ∧
    Acyclic (c.links.diff (closings (Validation.canvasCycles c))) ∧
    (Validation.checkCycles c = [] ↔ Acyclic c.links) := by
  have hloop : ∀ path ∈ Validation.canvasCycles c, Loop c.onward path := loop_of_mem_cycles
  have hrest : Acyclic (c.links.diff (closings (Validation.canvasCycles c))) := fun n hn =>
    not_transGen_left (fun _ => onward_eq_nil) n
      (Relation.TransGen.mono (fun _ _ => left_of_mem_diff) n n hn)
  refine ⟨rfl, ?_, hrest, ?_⟩
  · intro path hpath
    obtain ⟨id, inner, rfl, hnodup, hchain⟩ := hloop path hpath
    refine ⟨id, inner, rfl, rfl, hnodup, fun step hstep => ?_⟩
    exact mem_onward.mp (isChain_iff_steps.mp hchain step hstep)
  · rw [Validation.checkCycles, List.map_eq_nil_iff]
    constructor
    · intro hnone
      simpa [hnone, closings] using hrest
    · intro hacyclic
      rw [List.eq_nil_iff_forall_not_mem]
      intro path hpath
      obtain ⟨n, hn⟩ := (hloop path hpath).transGen
      exact hacyclic n (Relation.TransGen.mono (fun _ _ => mem_onward.mp) n n hn)

end Workflow.Canvas
