import Mathlib.Data.String.Basic
import Workflow.Proofs.Engine.Evaluate
import Workflow.Proofs.Graph.Longest
import Workflow.Proofs.Plan.Order
import Workflow.Proofs.Plan.Paths

/-!
Levels and the critical path of a compiled plan: both measure the longest paths to its nodes.
-/

namespace Workflow

namespace Plan

variable {p : Plan} {n m : String} {k : Nat}

structure PathTo (p : Plan) (n : String) (path : List String) : Prop where
  chain : path.IsChain p.Leads
  last : path.getLast? = some n

/-- The longest path to the node has so many edges. -/
structure Depth (p : Plan) (n : String) (k : Nat) : Prop where
  reached : ∃ path, p.PathTo n path ∧ path.length = k + 1
  bound : ∀ path, p.PathTo n path → path.length ≤ k + 1

section

variable (h : p.WellFormed)
include h

lemma mem_predecessors_iff : m ∈ p.digraph.predecessors n ↔ p.Leads m n := by
  rw [Digraph.mem_predecessors, digraph, Digraph.ofEdges, List.mem_eraseDups,
    mem_edges_iff_children h, Leads]

lemma back_reverse_iff {path : List String} :
    p.digraph.Back path.reverse ↔ path.IsChain p.Leads := by
  rw [Digraph.Back, List.isChain_reverse]
  simp only [mem_predecessors_iff h]

lemma depth_of_digraph (hd : p.digraph.Depth n k) : p.Depth n k := by
  obtain ⟨l, hl, rfl⟩ := hd.reached
  rw [← List.reverse_reverse (n :: l), back_reverse_iff h] at hl
  refine ⟨⟨_, ⟨hl, by simp⟩, by simp⟩, fun path hp => ?_⟩
  obtain ⟨start, rfl⟩ := List.getLast?_eq_some_iff.mp hp.last
  have hback := (back_reverse_iff h).mpr hp.chain
  rw [List.reverse_concat] at hback
  simpa using hd.bound _ hback

lemma digraph_perm : p.digraph.nodes.Perm p.nodeIds :=
  (List.perm_ext_iff_of_nodup (digraph_acyclic h).nodes_nodup h.nodup).mpr fun _ =>
    mem_digraph_nodes h

end

def level (layer : List String) : List String := layer.mergeSort fun a b => a ≤ b

lemma mem_level {layer : List String} : n ∈ level layer ↔ n ∈ layer := List.mem_mergeSort

lemma levels_perm (layers : List (List String)) :
    (layers.map level).flatten.Perm layers.flatten := by
  have hperm := List.Perm.flatMap_left layers (f := level) (g := id) fun layer _ =>
    List.mergeSort_perm layer _
  rwa [List.flatMap_def, List.flatMap_id] at hperm

lemma sorted_level {layer : List String} (hn : layer.Nodup) :
    (level layer).Pairwise (· < ·) := by
  have hsorted : (level layer).Pairwise (· ≤ ·) := List.pairwise_mergeSort' (· ≤ ·) layer
  have hnodup : (level layer).Nodup := (List.mergeSort_perm layer _).nodup_iff.mpr hn
  exact hsorted.imp₂ (fun _ _ hle hne => lt_of_le_of_ne hle hne) hnodup

lemma level_depth (h : p.WellFormed) {layers : List (List String)}
    (hl : p.digraph.generations? = some layers) {ids : List String}
    (hk : (layers.map level)[k]? = some ids) :
    ids ≠ [] ∧ ids.Pairwise (· < ·) ∧ ∀ n ∈ ids, p.digraph.Depth n k := by
  obtain ⟨layer, hlayer, rfl⟩ : ∃ layer, layers[k]? = some layer ∧ level layer = ids := by
    simpa using hk
  have hg := digraph_acyclic h
  have hnodup := (Digraph.layers_perm hg hl).nodup_iff.mpr hg.nodes_nodup
  obtain ⟨hne, hdepth⟩ := Digraph.generations_depth hl hlayer
  obtain ⟨n, hn⟩ := List.exists_mem_of_ne_nil layer hne
  exact ⟨List.ne_nil_of_mem (mem_level.mpr hn),
    sorted_level ((List.nodup_flatten.mp hnodup).1 layer (List.mem_of_getElem? hlayer)),
    fun m hm => hdepth m (mem_level.mp hm)⟩

end Plan

namespace Canvas

variable {c : Canvas} {catalogue : Catalogue} {p : Plan}

/-- The levels part the nodes by the longest paths to them, and the critical path goes through all
levels, one after another. -/
theorem critical_path_visits_levels (h : c.compile catalogue = .ok p) :
    ∃ (levels : List (List String)) (path : List String),
      p.levels? = some levels ∧ p.criticalPath? = some path ∧
      (∀ level ∈ levels, level ≠ [] ∧ level.Pairwise (· < ·)) ∧
      levels.flatten.Nodup ∧ levels.flatten.Perm p.nodeIds ∧
      (∀ (i : Nat) level, levels[i]? = some level → ∀ n ∈ level, p.Depth n i) ∧
      (∀ (i j : Nat) level later a b, levels[i]? = some level → levels[j]? = some later →
        a ∈ level → b ∈ later → p.Leads a b → i < j) ∧
      path.IsChain p.Leads ∧ path ⊆ p.nodeIds ∧ path.length = levels.length ∧
      ∀ (i : Nat) n, path[i]? = some n → ∃ level, levels[i]? = some level ∧ n ∈ level := by
  have hwf := compile_wellFormed h
  have hg := Plan.digraph_acyclic hwf
  obtain ⟨layers, hl, hperm⟩ := Digraph.generations_complete hg
  obtain ⟨path, hpath, hback, hlen, hvisits⟩ := Digraph.longestPath_visits hg hl
  have hdepth : ∀ {i : Nat} {level : List String} {n : String},
      (layers.map Plan.level)[i]? = some level → n ∈ level → p.digraph.Depth n i :=
    fun hi => (Plan.level_depth hwf hl hi).2.2 _
  have hall : (layers.map Plan.level).flatten.Perm p.nodeIds :=
    (Plan.levels_perm layers).trans (hperm.trans (Plan.digraph_perm hwf))
  have hvisited : ∀ (i : Nat) n, path[i]? = some n →
      ∃ level, (layers.map Plan.level)[i]? = some level ∧ n ∈ level := by
    intro i n hi
    obtain ⟨layer, hi', hn⟩ := hvisits i n hi
    exact ⟨Plan.level layer, by simp [hi'], Plan.mem_level.mpr hn⟩
  refine ⟨layers.map Plan.level, path, by rw [Plan.levels?, hl]; rfl, hpath, ?_,
    hall.nodup_iff.mpr hwf.nodup, hall,
    fun i level hi n hn => Plan.depth_of_digraph hwf (hdepth hi hn), ?_,
    (Plan.back_reverse_iff hwf).mp hback, ?_, by rw [hlen, List.length_map], hvisited⟩
  · intro level hlevel
    obtain ⟨i, hi⟩ := List.mem_iff_getElem?.mp hlevel
    obtain ⟨hne, hsorted, -⟩ := Plan.level_depth hwf hl hi
    exact ⟨hne, hsorted⟩
  · intro i j level later a b hi hj ha hb hab
    exact (hdepth hj hb).lt_of_predecessor ((Plan.mem_predecessors_iff hwf).mpr hab)
      (hdepth hi ha)
  · intro n hn
    obtain ⟨i, hi⟩ := List.mem_iff_getElem?.mp hn
    obtain ⟨level, hlevel, hmem⟩ := hvisited i n hi
    exact hall.mem_iff.mp (List.mem_flatten.mpr ⟨level, List.mem_of_getElem? hlevel, hmem⟩)

def detour : Canvas where
  nodes? := some [.bare "side" .worker [("webhook_url", .str "http://worker")],
    .bare "first" .worker [("webhook_url", .str "http://worker")],
    .bare "between" .worker [("webhook_url", .str "http://worker")],
    .bare "last" .worker [("webhook_url", .str "http://worker")]]
  edges? := some [.bare "first" "last" [], .bare "first" "between" [], .bare "between" "last" []]

theorem detour_levels : detour.compile [] = .ok (.ofCanvas detour []) ∧
    ∃ levels path, (Plan.ofCanvas detour []).levels? = some levels ∧
      (Plan.ofCanvas detour []).criticalPath? = some path ∧
      levels = [["first", "side"], ["between"], ["last"]] ∧
      path = ["first", "between", "last"] ∧ path.length = levels.length ∧
      (Plan.ofCanvas detour []).Depth "last" 2 := by
  have hc : detour.compile [] = .ok (.ofCanvas detour []) :=
    compile_of_checks (by decide +kernel) (by decide +kernel) (by decide +kernel)
  have hlayers : (Plan.ofCanvas detour []).digraph.generations? =
      some [["side", "first"], ["between"], ["last"]] := by decide +kernel
  have hlevels : (Plan.ofCanvas detour []).levels? =
      some [["first", "side"], ["between"], ["last"]] := by
    rw [Plan.levels?, hlayers]
    simp [List.mergeSort]
  have hpath : (Plan.ofCanvas detour []).criticalPath? = some ["first", "between", "last"] := by
    decide +kernel
  obtain ⟨levels, path, hl, hp, -, -, -, hdepth, -, -, -, hlen, -⟩ :=
    critical_path_visits_levels hc
  obtain rfl := Option.some.inj (hl.symm.trans hlevels)
  obtain rfl := Option.some.inj (hp.symm.trans hpath)
  exact ⟨hc, _, _, hl, hp, rfl, rfl, hlen, hdepth 2 _ rfl _ (by simp)⟩

end Canvas

end Workflow
