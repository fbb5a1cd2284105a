import Mathlib.Data.Fintype.Order
import Mathlib.Data.Set.Finite.List
import Mathlib.Tactic.Lemma
import Workflow.Proofs.Graph.ClosingEdges

/-! A search that finds no cycle has explored a graph without infinite paths. -/

namespace Workflow.CycleSearch

variable {next : String → List String}

lemma irreflexive_of_no_cycles {nodes : List String} (hs : ∀ n, n ∉ nodes → next n = [])
    (hc : cycles nodes next = []) (n : String) :
    ¬ Relation.TransGen (fun a b => b ∈ next a) n n := by
  have hleft := not_transGen_left hs n
  rw [hc] at hleft
  intro hn
  exact hleft (Relation.TransGen.mono (fun _ _ => left_of_nothing_gone) n n hn)

lemma wellFounded_of_no_cycles {nodes : List String} (hs : ∀ n, n ∉ nodes → next n = [])
    (ht : ∀ n m, m ∈ next n → m ∈ nodes) (hc : cycles nodes next = []) :
    WellFounded fun a b => b ∈ next a := by
  let edge : String → String → Prop := fun a b => b ∈ next a
  let above : {n // n ∈ nodes} → {n // n ∈ nodes} → Prop :=
    fun a b => Relation.TransGen edge a b
  have hfin : Finite {n // n ∈ nodes} := (List.finite_toSet nodes).to_subtype
  have htrans : IsTrans _ above := ⟨fun _ _ _ => Relation.TransGen.trans⟩
  have hirr : Std.Irrefl above := ⟨fun n => irreflexive_of_no_cycles hs hc n⟩
  have hwf : WellFounded above := Finite.wellFounded_of_trans_of_irrefl above
  have hin : ∀ n : {n // n ∈ nodes}, Acc edge n := by
    intro n
    induction n using hwf.induction with
    | h n ih =>
      refine Acc.intro _ fun m hm => ?_
      have hmem : m ∈ nodes := by
        by_contra hout
        simp only [edge, hs m hout, List.not_mem_nil] at hm
      exact ih ⟨m, hmem⟩ (Relation.TransGen.single hm)
  refine ⟨fun n => ?_⟩
  by_cases hn : n ∈ nodes
  · exact hin ⟨n, hn⟩
  · exact Acc.intro n fun m hm => absurd (ht m n hm) hn

lemma no_cycles_of_wellFounded {nodes : List String} (h : WellFounded fun a b => b ∈ next a) :
    cycles nodes next = [] := by
  rw [List.eq_nil_iff_forall_not_mem]
  intro cycle hcycle
  obtain ⟨n, hn⟩ := (loop_of_mem_cycles cycle hcycle).transGen
  exact h.transGen.irrefl.irrefl n hn

lemma cycles_eq_nil_iff {nodes : List String} (hs : ∀ n, n ∉ nodes → next n = [])
    (ht : ∀ n m, m ∈ next n → m ∈ nodes) :
    cycles nodes next = [] ↔ WellFounded fun a b => b ∈ next a :=
  ⟨wellFounded_of_no_cycles hs ht, no_cycles_of_wellFounded⟩

end Workflow.CycleSearch
