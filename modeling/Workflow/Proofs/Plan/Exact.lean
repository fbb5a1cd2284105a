import Workflow.Proofs.Engine.Evaluate
import Workflow.Proofs.Plan.Paths

/-! The compiled plan is the executable part of its canvas, and nothing else. -/

namespace Workflow

lemma pairwise_findIdx_eraseDups {α : Type} (q : α → Bool) (f : α → String) (l : List α) :
    ((l.filter q).map f).eraseDups.Pairwise fun a b =>
      (l.findIdx fun e => q e && f e == a) < l.findIdx fun e => q e && f e == b := by
  induction l generalizing q with
  | nil => simp
  | cons x l ih =>
    by_cases hx : q x
    · -- What follows `x` is the list of the elements with another value.
      let q' : α → Bool := fun e => q e && !f e == f x
      have hrest : (((l.filter q).map f).filter fun b => !b == f x) = (l.filter q').map f := by
        simp [q', List.filter_map, List.filter_filter, Function.comp_def, Bool.and_comm]
      rw [List.filter_cons_of_pos hx, List.map_cons, List.eraseDups_cons, hrest]
      have hne : ∀ b ∈ ((l.filter q').map f).eraseDups, b ≠ f x := by
        intro b hb
        obtain ⟨e, he, rfl⟩ := List.mem_map.mp (List.mem_eraseDups.mp hb)
        have hq := (List.mem_filter.mp he).2
        simp only [q', Bool.and_eq_true, Bool.not_eq_true', beq_eq_false_iff_ne] at hq
        exact hq.2
      have hindex : ∀ b, b ≠ f x → ((x :: l).findIdx fun e => q e && f e == b) =
          (l.findIdx fun e => q' e && f e == b) + 1 := by
        intro b hb
        have hq : (fun e => q e && f e == b) = fun e => q' e && f e == b := by
          funext e
          by_cases he : f e = b
          · simp [q', he, hb]
          · simp [beq_false_of_ne he]
        rw [List.findIdx_cons, hq]
        simp [beq_false_of_ne (Ne.symm hb)]
      refine List.pairwise_cons.mpr ⟨fun b hb => ?_, ?_⟩
      · simp [hindex b (hne b hb), List.findIdx_cons, hx]
      · refine (ih q').imp_of_mem fun ha hb h => ?_
        rw [hindex _ (hne _ ha), hindex _ (hne _ hb)]
        omega
    · rw [List.filter_cons_of_neg hx]
      refine (ih q).imp fun h => ?_
      simpa [List.findIdx_cons, hx] using h

def Canvas.firstEdge (c : Canvas) (s t : String) : ℕ :=
  c.edges.findIdx fun e => e.source == s && e.target == t

namespace Plan

/-- The plan is the executable part of the canvas. -/
structure Exact (c : Canvas) (catalogue : Catalogue) (p : Plan) : Prop where
  nodes_eq : p.nodes =
    (c.nodes.filter fun n => !n.kind.isPresentation).map fun n => (n.id, .ofCanvas catalogue n)
  nodes_id : ∀ e ∈ p.nodes, e.2.id = e.1
  nodes_nodup : p.nodeIds.Nodup
  adjacency_keys : Keyed.keys p.adjacency = p.nodeIds
  adjacency_targets : ∀ e ∈ p.adjacency, ∀ t ∈ e.2, t ∈ p.nodeIds
  children_iff : ∀ s t, t ∈ p.children s ↔
    (∃ e ∈ c.edges, e.source = s ∧ e.target = t) ∧ s ∈ p.nodeIds ∧ t ∈ p.nodeIds
  children_nodup : ∀ s, (p.children s).Nodup
  children_order : ∀ s, (p.children s).Pairwise fun a b => c.firstEdge s a < c.firstEdge s b
  parents_iff : ∀ s t, s ∈ p.parents t ↔ t ∈ p.children s
  parents_nodup : ∀ t, (p.parents t).Nodup
  entry_eq : p.entryNodes = p.nodeIds.filter fun id => p.parents id = []
  terminal_eq : p.terminalNodes = p.nodeIds.filter fun id => p.children id = []
  acyclic : ∀ id, ¬ p.Reaches id id
  exists_ends : p.nodes ≠ [] → p.entryNodes ≠ [] ∧ p.terminalNodes ≠ []
  reached : ∀ id ∈ p.nodeIds, ∃ entry ∈ p.entryNodes, Relation.ReflTransGen p.Leads entry id

lemma nodup_edges {p : Plan} (hk : (Keyed.keys p.adjacency).Nodup)
    (ht : ∀ e ∈ p.adjacency, e.2.Nodup) : p.edges.Nodup := by
  refine List.nodup_flatMap.mpr ⟨fun e he => (ht e he).map fun _ _ h => (Prod.mk.inj h).2, ?_⟩
  refine (List.pairwise_map.mp hk).imp fun hne => ?_
  refine List.disjoint_left.mpr ?_
  intro x ha hb
  obtain ⟨_, _, rfl⟩ := List.mem_map.mp ha
  obtain ⟨_, _, he⟩ := List.mem_map.mp hb
  exact hne (Prod.mk.inj he).1.symm

lemma nodup_parents {p : Plan} (h : p.edges.Nodup) (t : String) : (p.parents t).Nodup := by
  refine List.Nodup.map_on ?_ (h.filter _)
  rintro ⟨s, u⟩ hs ⟨s', u'⟩ hs' rfl
  have hu : u = t := by simpa using (List.mem_filter.mp hs).2
  have hu' : u' = t := by simpa using (List.mem_filter.mp hs').2
  rw [hu, hu']

end Plan

namespace Canvas

variable {c : Canvas} {catalogue : Catalogue}

lemma children_ofCanvas (s : String) : (Plan.ofCanvas c catalogue).children s =
    if s ∈ c.executableIds then (targetsFrom c.executableEdges s).eraseDups else [] := by
  rw [Plan.children, Plan.ofCanvas, Keyed.find?_mapValues, find?_adjacency]
  split <;> rfl

lemma keys_adjacency_ofCanvas :
    Keyed.keys (Plan.ofCanvas c catalogue).adjacency = c.executableIds := by
  rw [← keys_adjacency (c := c)]
  simp [Plan.ofCanvas, Keyed.keys, Keyed.mapValues, Function.comp_def]

lemma adjacency_ofCanvas {e : String × List String}
    (he : e ∈ (Plan.ofCanvas c catalogue).adjacency) :
    e.1 ∈ c.executableIds ∧ e.2 = (targetsFrom c.executableEdges e.1).eraseDups := by
  simp only [Plan.ofCanvas, Keyed.mapValues, adjacency, List.map_map, List.mem_map] at he
  obtain ⟨id, hid, rfl⟩ := he
  exact ⟨hid, rfl⟩

lemma nodup_children (s : String) : ((Plan.ofCanvas c catalogue).children s).Nodup := by
  rw [children_ofCanvas]
  split
  · exact nodup_eraseDups _
  · exact List.nodup_nil

lemma children_in_order (s : String) : ((Plan.ofCanvas c catalogue).children s).Pairwise
    fun a b => c.firstEdge s a < c.firstEdge s b := by
  rw [children_ofCanvas]
  split
  · rename_i hs
    let ends : CanvasEdge → Bool := fun e =>
      (c.executableIds.contains e.source && c.executableIds.contains e.target) && e.source = s
    have htargets : targetsFrom c.executableEdges s = (c.edges.filter ends).map (·.target) := by
      simp [targetsFrom, executableEdges, ends, List.filter_filter, Bool.and_comm]
    -- Edges from `s` to an executable node are all kept.
    have hfirst : ∀ t ∈ c.executableIds,
        (c.edges.findIdx fun e => ends e && e.target == t) = c.firstEdge s t := by
      intro t ht
      rw [firstEdge]
      congr 1
      funext e
      by_cases hsource : e.source = s <;> by_cases htarget : e.target = t <;>
        simp [ends, hsource, htarget, hs, ht]
    rw [htargets]
    refine (pairwise_findIdx_eraseDups ends (·.target) c.edges).imp_of_mem fun ha hb h => ?_
    have hmem : ∀ t ∈ ((c.edges.filter ends).map (·.target)).eraseDups, t ∈ c.executableIds := by
      intro t ht
      obtain ⟨e, he, rfl⟩ := List.mem_map.mp (List.mem_eraseDups.mp ht)
      have hends := (List.mem_filter.mp he).2
      simp only [ends, Bool.and_eq_true, List.contains_eq_mem, decide_eq_true_eq] at hends
      exact hends.1.2
    rwa [hfirst _ (hmem _ ha), hfirst _ (hmem _ hb)] at h
  · exact List.Pairwise.nil

lemma terminalNodes_ofCanvas : (Plan.ofCanvas c catalogue).terminalNodes =
    c.executableIds.filter fun id => (Plan.ofCanvas c catalogue).children id = [] := by
  have hkeys : (Plan.ofCanvas c catalogue).terminalNodes = (c.executableIds.filter fun id =>
      (targetsFrom c.executableEdges id).eraseDups.isEmpty) := by
    simp [Plan.terminalNodes, Plan.ofCanvas, adjacency, Keyed.keys, Keyed.mapValues,
      List.filter_map, Function.comp_def]
  rw [hkeys]
  refine List.filter_congr fun id hid => ?_
  rw [children_ofCanvas, if_pos hid, Bool.eq_iff_iff]
  simp

lemma entryNodes_ofCanvas : (Plan.ofCanvas c catalogue).entryNodes =
    c.executableIds.filter fun id => (Plan.ofCanvas c catalogue).parents id = [] := by
  refine List.filter_congr fun id _ => ?_
  rw [Bool.eq_iff_iff, decide_eq_true_iff, parents_ofCanvas_eq_nil]
  simp

theorem compile_exact {p : Plan} (h : c.compile catalogue = .ok p) : p.Exact c catalogue := by
  have hwf := compile_wellFormed h
  obtain ⟨hf, rfl⟩ := compile_eq_ok h
  have hn := nodup_of_duplicateNodes (checks_of_findings hf).1
  have hids : (Plan.ofCanvas c catalogue).nodeIds = c.executableIds := nodeIds_ofCanvas hn
  have hnodes : ∀ e ∈ (Plan.ofCanvas c catalogue).nodes,
      e.1 ∈ (Plan.ofCanvas c catalogue).nodeIds :=
    fun e he => List.mem_map_of_mem he
  exact {
    nodes_eq := compiledNodes_of_nodup catalogue hn
    nodes_id := fun e he => hwf.id_eq (Keyed.find?_of_mem hwf.nodup he)
    nodes_nodup := hwf.nodup
    adjacency_keys := keys_adjacency_ofCanvas.trans hids.symm
    adjacency_targets := by
      intro e he t ht
      have hchild : t ∈ (Plan.ofCanvas c catalogue).children e.1 := by
        rw [Plan.children, Keyed.find?_of_mem nodup_adjacency_ofCanvas he]
        exact ht
      exact hwf.child_mem hchild
    children_iff := by
      intro s t
      rw [mem_children_iff, hids]
      constructor
      · rintro ⟨e, he, rfl, rfl⟩
        obtain ⟨he, hs, ht⟩ := mem_executableEdges.mp he
        exact ⟨⟨e, he, rfl, rfl⟩, hs, ht⟩
      · rintro ⟨⟨e, he, rfl, rfl⟩, hs, ht⟩
        exact ⟨e, mem_executableEdges.mpr ⟨he, hs, ht⟩, rfl, rfl⟩
    children_nodup := nodup_children
    children_order := children_in_order
    parents_iff := fun _ _ => hwf.parents_iff
    parents_nodup := Plan.nodup_parents <| Plan.nodup_edges nodup_adjacency_ofCanvas fun e he =>
      (adjacency_ofCanvas he).2 ▸ nodup_eraseDups _
    entry_eq := hids ▸ entryNodes_ofCanvas
    terminal_eq := hids ▸ terminalNodes_ofCanvas
    acyclic := fun _ => hwf.acyclic
    exists_ends := by
      intro hne
      obtain ⟨e, he⟩ := List.exists_mem_of_ne_nil _ hne
      obtain ⟨entry, hentry, _⟩ := hwf.exists_entry (hnodes e he)
      obtain ⟨last, hlast, hc⟩ := hwf.exists_last (hnodes e he)
      refine ⟨List.ne_nil_of_mem hentry, List.ne_nil_of_mem (a := last) ?_⟩
      rw [terminalNodes_ofCanvas, ← hids]
      exact List.mem_filter.mpr ⟨hlast, by simpa using hc⟩
    reached := fun _ => hwf.exists_entry }

def boxedFork : Canvas :=
  let worker (id : String) := CanvasNode.bare id .worker [("webhook_url", .str "http://worker")]
  let text : InputSchema := ⟨none, some true, none, none⟩
  { nodes? := some [.bare "box" .frame [], worker "start",
      { worker "left" with
        data? := some { (worker "left").data with inputs? := some (some [("text", text)]) } },
      worker "right"]
    edges? := some [.bare "box" "left" [("text", "a")], .bare "start" "right" [],
      .bare "start" "left" [("text", "b")], .bare "start" "right" []] }

theorem boxedFork_exact : boxedFork.compile [] = .ok (.ofCanvas boxedFork []) ∧
    (Plan.ofCanvas boxedFork []).Exact boxedFork [] ∧
    (Plan.ofCanvas boxedFork []).children "start" = ["right", "left"] ∧
    (Plan.ofCanvas boxedFork []).parents "left" = ["start"] := by
  have hc : boxedFork.compile [] = .ok (.ofCanvas boxedFork []) :=
    compile_of_checks (by decide +kernel) (by decide +kernel) (by decide +kernel)
  exact ⟨hc, compile_exact hc, by decide +kernel, by decide +kernel⟩

end Canvas

end Workflow
