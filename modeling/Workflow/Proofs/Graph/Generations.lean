import Mathlib.Data.List.Nodup
import Mathlib.Data.List.Perm.Subperm
import Mathlib.Order.WellFounded
import Mathlib.Tactic.Lemma
import Workflow.Graph.Digraph

/-! The generations of a graph without infinite paths: they hold all of its nodes. -/

namespace Workflow.Digraph

variable {g : Digraph} {done gen : List String} {n c : String}

lemma mem_successors : c ∈ g.successors n ↔ (n, c) ∈ g.edges := by simp [successors]

lemma mem_predecessors : n ∈ g.predecessors c ↔ (n, c) ∈ g.edges := by simp [predecessors]

structure Acyclic (g : Digraph) : Prop where
  nodes_nodup : g.nodes.Nodup
  edges_nodup : g.edges.Nodup
  source_mem : ∀ {n c}, (n, c) ∈ g.edges → n ∈ g.nodes
  target_mem : ∀ {n c}, (n, c) ∈ g.edges → c ∈ g.nodes
  upward : WellFounded fun a b => (a, b) ∈ g.edges

structure Frontier (g : Digraph) (done gen : List String) : Prop where
  nodup : (done ++ gen).Nodup
  mem_iff : ∀ c, c ∈ gen ↔ c ∈ g.nodes ∧ c ∉ done ∧ ∀ n ∈ g.predecessors c, n ∈ done
  done_mem : ∀ c ∈ done, c ∈ g.nodes
  closed : ∀ c ∈ done, ∀ n ∈ g.predecessors c, n ∈ done

lemma mem_ripe :
    c ∈ g.ripe done gen ↔ ∃ a n b, gen = a ++ n :: b ∧ n ∈ g.predecessors c ∧
      ∀ m ∈ g.predecessors c, m = n ∨ m ∈ a ∨ m ∈ done := by
  induction gen generalizing done with
  | nil => simp [ripe]
  | cons n rest ih =>
    simp only [ripe, List.mem_append, List.mem_filter, mem_successors, ih, List.all_eq_true,
      List.contains_iff_mem, List.mem_cons, ← mem_predecessors]
    constructor
    · rintro (⟨hn, hall⟩ | ⟨a, m, b, rfl, hm, hall⟩)
      · exact ⟨[], n, rest, rfl, hn, fun m hm => by simpa using hall m hm⟩
      · refine ⟨n :: a, m, b, rfl, hm, fun k hk => ?_⟩
        rcases hall k hk with h | h | h | h <;> simp [h]
    · rintro ⟨a, m, b, heq, hm, hall⟩
      cases a with
      | nil =>
        obtain ⟨rfl, rfl⟩ := List.cons.inj heq
        exact .inl ⟨hm, fun k hk => by simpa using hall k hk⟩
      | cons x a =>
        obtain ⟨rfl, rfl⟩ := List.cons.inj heq
        refine .inr ⟨a, m, b, rfl, hm, fun k hk => ?_⟩
        rcases hall k hk with h | h | h
        · exact .inl h
        · rcases List.mem_cons.mp h with h | h
          · exact .inr (.inr (.inl h))
          · exact .inr (.inl h)
        · exact .inr (.inr (.inr h))

lemma nodup_ripe (he : g.edges.Nodup) (hn : (done ++ gen).Nodup) : (g.ripe done gen).Nodup := by
  induction gen generalizing done with
  | nil => simp [ripe]
  | cons n rest ih =>
    have hn' : ((n :: done) ++ rest).Nodup := by
      refine (List.Perm.nodup_iff ?_).mp hn
      exact List.perm_middle
    rw [ripe, List.nodup_append]
    refine ⟨List.Nodup.filter _ ?_, ih hn', ?_⟩
    · rw [successors]
      refine List.Nodup.map_on ?_ (he.filter _)
      rintro ⟨a, b⟩ hx ⟨a', b'⟩ hy hb
      simp only [List.mem_filter, decide_eq_true_eq] at hx hy
      simp only at hb
      rw [hx.2, hy.2, hb]
    · rintro c hc d hd rfl
      simp only [List.mem_filter, List.all_eq_true, List.contains_iff_mem] at hc
      obtain ⟨a, m, b, rfl, hm, _⟩ := mem_ripe.mp hd
      have hmd := hc.2 m hm
      exact (List.nodup_append.mp hn').2.2 m hmd m (by simp) rfl

lemma exists_last {l : List String} {P : String → Prop} (h : ∃ x ∈ l, P x) :
    ∃ a n b, l = a ++ n :: b ∧ P n ∧ ∀ m ∈ b, ¬ P m := by
  induction l with
  | nil => simp at h
  | cons x rest ih =>
    by_cases hrest : ∃ y ∈ rest, P y
    · obtain ⟨a, n, b, rfl, hn, hb⟩ := ih hrest
      exact ⟨x :: a, n, b, rfl, hn, hb⟩
    · obtain ⟨y, hy, hp⟩ := h
      rcases List.mem_cons.mp hy with rfl | hy
      · exact ⟨[], y, rest, rfl, hp, fun m hm hpm => hrest ⟨m, hm, hpm⟩⟩
      · exact absurd ⟨y, hy, hp⟩ hrest

variable (h : g.Acyclic)
include h

omit h in
lemma Frontier.not_mem_of_predecessor {c n : String} (hf : g.Frontier done gen)
    (hn : n ∈ g.predecessors c) (hng : n ∈ gen) : c ∉ done ∧ c ∉ gen := by
  obtain ⟨_, _, hdisj⟩ := List.nodup_append.mp hf.nodup
  refine ⟨fun hc => hdisj n (hf.closed c hc n hn) n hng rfl, fun hc => ?_⟩
  exact hdisj n (((hf.mem_iff c).mp hc).2.2 n hn) n hng rfl

lemma Frontier.mem_ripe_iff (hf : g.Frontier done gen) (c : String) :
    c ∈ g.ripe done gen ↔ c ∈ g.nodes ∧ c ∉ gen.reverse ++ done ∧
      ∀ n ∈ g.predecessors c, n ∈ gen.reverse ++ done := by
  simp only [List.mem_append, List.mem_reverse, not_or]
  constructor
  · intro hc
    obtain ⟨a, n, b, rfl, hn, hall⟩ := mem_ripe.mp hc
    obtain ⟨hcd, hcg⟩ := hf.not_mem_of_predecessor hn (by simp)
    refine ⟨h.target_mem (mem_predecessors.mp hn), ⟨hcg, hcd⟩, fun m hm => ?_⟩
    rcases hall m hm with rfl | hm | hm
    · exact .inl (by simp)
    · exact .inl (by simp [hm])
    · exact .inr hm
  · rintro ⟨hc, ⟨hcg, hcd⟩, hall⟩
    have hex : ∃ n ∈ gen, n ∈ g.predecessors c := by
      by_contra hno
      refine hcg ((hf.mem_iff c).mpr ⟨hc, hcd, fun n hn => ?_⟩)
      exact (hall n hn).resolve_left fun hng => hno ⟨n, hng, hn⟩
    -- The last predecessor within the generation is the one that lets the node ripen.
    obtain ⟨a, n, b, rfl, hn, hlast⟩ := exists_last hex
    refine mem_ripe.mpr ⟨a, n, b, rfl, hn, fun m hm => ?_⟩
    rcases hall m hm with hmg | hmd
    · rcases List.mem_append.mp hmg with hma | hmb
      · exact .inr (.inl hma)
      · rcases List.mem_cons.mp hmb with rfl | hmb
        · exact .inl rfl
        · exact absurd hm (hlast m hmb)
    · exact .inr (.inr hmd)

lemma Frontier.next (hf : g.Frontier done gen) :
    g.Frontier (gen.reverse ++ done) (g.ripe done gen) where
  nodup := by
    rw [List.nodup_append]
    refine ⟨?_, nodup_ripe h.edges_nodup hf.nodup, ?_⟩
    · exact ((List.reverse_perm gen).append_right done).nodup_iff.mpr
        (List.perm_append_comm.nodup_iff.mp hf.nodup)
    · rintro a ha b hb rfl
      exact ((hf.mem_ripe_iff h a).mp hb).2.1 ha
  mem_iff := hf.mem_ripe_iff h
  done_mem c hc := by
    rcases List.mem_append.mp hc with hc | hc
    · exact ((hf.mem_iff c).mp (List.mem_reverse.mp hc)).1
    · exact hf.done_mem c hc
  closed c hc n hn := by
    rcases List.mem_append.mp hc with hc | hc
    · exact List.mem_append_right _ (((hf.mem_iff c).mp (List.mem_reverse.mp hc)).2.2 n hn)
    · exact List.mem_append_right _ (hf.closed c hc n hn)

lemma Frontier.done_of_nil (hf : g.Frontier done []) (c : String) (hc : c ∈ g.nodes) :
    c ∈ done := by
  induction c using h.upward.induction with
  | _ c ih =>
    by_contra hno
    have hmem := (hf.mem_iff c).mpr ⟨hc, hno, fun n hn =>
      ih n (mem_predecessors.mp hn) (h.source_mem (mem_predecessors.mp hn))⟩
    simp at hmem

lemma generationsFrom_complete (fuel : Nat) (hf : g.Frontier done gen)
    (hfuel : g.nodes.length ≤ fuel + done.length) :
    (∀ c ∈ g.nodes, c ∈ done ∨ c ∈ (g.generationsFrom fuel done gen).flatten) ∧
      done.length + (g.generationsFrom fuel done gen).flatten.length = g.nodes.length := by
  have hsub : done.length ≤ g.nodes.length :=
    (List.subperm_of_subset (List.nodup_append.mp hf.nodup).1 hf.done_mem).length_le
  -- Each round moves at least one node to `done`, so the fuel lasts.
  induction fuel generalizing done gen with
  | zero =>
    have hperm := (List.subperm_of_subset (List.nodup_append.mp hf.nodup).1
      hf.done_mem).perm_of_length_le (by omega)
    exact ⟨fun c hc => .inl (hperm.mem_iff.mpr hc), by simp [generationsFrom]; omega⟩
  | succ fuel ih =>
    cases gen with
    | nil =>
      have hall := hf.done_of_nil h
      have hle : g.nodes.length ≤ done.length :=
        (List.subperm_of_subset h.nodes_nodup hall).length_le
      exact ⟨fun c hc => .inl (hall c hc), by simp [generationsFrom]; omega⟩
    | cons n rest =>
      have hnext := hf.next h
      have hsub' : ((n :: rest).reverse ++ done).length ≤ g.nodes.length :=
        (List.subperm_of_subset (List.nodup_append.mp hnext.nodup).1 hnext.done_mem).length_le
      obtain ⟨hall, hlen⟩ := ih hnext (by simp; omega) hsub'
      simp only [generationsFrom, List.isEmpty_cons, Bool.false_eq_true, ↓reduceIte,
        List.flatten_cons, List.mem_append, List.length_append] at hlen ⊢
      refine ⟨fun c hc => ?_, by simp only [List.length_reverse] at hlen; omega⟩
      rcases hall c hc with hc | hc
      · rcases List.mem_append.mp hc with hc | hc
        · exact .inr (.inl (List.mem_reverse.mp hc))
        · exact .inl hc
      · exact .inr (.inr hc)

theorem generations_complete :
    ∃ layers, g.generations? = some layers ∧ layers.flatten.Perm g.nodes := by
  have hstart : g.Frontier [] g.sources := by
    refine ⟨?_, ?_, by simp, by simp⟩
    · exact h.nodes_nodup.filter _
    · intro c
      simp [sources, List.eq_nil_iff_forall_not_mem]
  obtain ⟨hall, hlen⟩ := generationsFrom_complete h g.nodes.length hstart (by simp)
  refine ⟨_, if_pos (by simpa using hlen), ?_⟩
  have hsub : g.nodes ⊆ (g.generationsFrom g.nodes.length [] g.sources).flatten :=
    fun c hc => by simpa using hall c hc
  exact ((List.subperm_of_subset h.nodes_nodup hsub).perm_of_length_le
    (by simpa using hlen.le)).symm

end Workflow.Digraph
