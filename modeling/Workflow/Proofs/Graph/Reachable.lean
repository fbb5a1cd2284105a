import Mathlib.Logic.Relation
import Mathlib.Tactic.Lemma
import Workflow.Graph.Digraph

/-! The search from a node finds the nodes that paths lead to, and no others. -/

namespace Workflow.Digraph

variable {next : String → List String} {unseen waiting : List String} {g : Digraph} {n m : String}

lemma mem_visit_of_waiting (hw : m ∈ waiting) (hu : m ∈ unseen) :
    m ∈ visit next unseen waiting := by
  fun_induction visit next unseen waiting with
  | case1 => cases hw
  | case2 unseen n rest hn ih =>
    by_cases he : m = n
    · exact he ▸ List.mem_cons_self
    · have hrest : m ∈ rest := (List.mem_cons.mp hw).resolve_left he
      exact List.mem_cons_of_mem _
        (ih (List.mem_append_right _ hrest) ((List.mem_erase_of_ne he).mpr hu))
  | case3 unseen n rest hn ih =>
    have hne : m ≠ n := fun he => hn (he ▸ hu)
    exact ih ((List.mem_cons.mp hw).resolve_left hne) hu

lemma visit_closed (hn : n ∈ visit next unseen waiting) (hm : m ∈ next n) (hu : m ∈ unseen) :
    m ∈ visit next unseen waiting := by
  fun_induction visit next unseen waiting with
  | case1 => cases hn
  | case2 unseen k rest hk ih =>
    by_cases he : m = k
    · exact he ▸ List.mem_cons_self
    · have hu' : m ∈ unseen.erase k := (List.mem_erase_of_ne he).mpr hu
      rcases List.mem_cons.mp hn with rfl | hn'
      · exact List.mem_cons_of_mem _ (mem_visit_of_waiting (List.mem_append_left _ hm) hu')
      · exact List.mem_cons_of_mem _ (ih hn' hu')
  | case3 unseen k rest hk ih => exact ih hn hu

lemma exists_waiting_of_mem_visit (h : m ∈ visit next unseen waiting) :
    ∃ n ∈ waiting, Relation.ReflTransGen (fun a b => b ∈ next a) n m := by
  fun_induction visit next unseen waiting with
  | case1 => cases h
  | case2 unseen k rest hk ih =>
    rcases List.mem_cons.mp h with rfl | h'
    · exact ⟨m, List.mem_cons_self, .refl⟩
    · obtain ⟨n, hn, hpath⟩ := ih h'
      rcases List.mem_append.mp hn with hnext | hrest
      · exact ⟨k, List.mem_cons_self, hpath.head hnext⟩
      · exact ⟨n, List.mem_cons_of_mem _ hrest, hpath⟩
  | case3 unseen k rest hk ih =>
    obtain ⟨n, hn, hpath⟩ := ih h
    exact ⟨n, List.mem_cons_of_mem _ hn, hpath⟩

lemma mem_reachable_iff (hg : ∀ {a b}, b ∈ g.successors a → b ∈ g.nodes) :
    m ∈ g.reachable n ↔ Relation.TransGen (fun a b => b ∈ g.successors a) n m := by
  constructor
  · intro h
    obtain ⟨k, hk, hpath⟩ := exists_waiting_of_mem_visit h
    exact .head' hk hpath
  · intro h
    induction h with
    | single hm => exact mem_visit_of_waiting hm (hg hm)
    | tail _ hm ih => exact visit_closed ih hm (hg hm)

end Workflow.Digraph
