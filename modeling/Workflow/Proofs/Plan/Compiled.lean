import Mathlib.Data.List.Nodup
import Mathlib.Tactic.Lemma
import Workflow.Plan.Compile
import Workflow.Proofs.Graph.Acyclic
import Workflow.Proofs.Keyed

/-! Compiled plans: their nodes are executable and known by their own ids, their edges join nodes,
and going back along edges ends. -/

namespace Workflow

section

variable {α : Type} [BEq α] [LawfulBEq α]

lemma nodup_eraseDups (l : List α) : l.eraseDups.Nodup := by
  induction hn : l.length using Nat.strongRecOn generalizing l with
  | _ n ih =>
    cases l with
    | nil => simp
    | cons a l =>
      rw [List.eraseDups_cons, List.nodup_cons]
      have hlt : (l.filter fun b => !b == a).length < n := by
        have := List.length_filter_le (fun b => !b == a) l
        simp only [List.length_cons] at hn
        omega
      exact ⟨by simp [List.mem_eraseDups], ih _ hlt _ rfl⟩

lemma eraseDups_of_nodup {l : List α} (h : l.Nodup) : l.eraseDups = l := by
  induction l with
  | nil => rfl
  | cons a l ih =>
    obtain ⟨ha, hl⟩ := List.nodup_cons.mp h
    have hf : (l.filter fun b => !b == a) = l := by
      apply List.filter_eq_self.mpr
      intro b hb
      have : b ≠ a := fun he => ha (he ▸ hb)
      simpa using this
    rw [List.eraseDups_cons, hf, ih hl]

lemma nodup_of_count_le_one {l : List α} (h : ∀ a ∈ l, l.count a ≤ 1) : l.Nodup := by
  rw [List.nodup_iff_count_le_one]
  intro a
  by_cases ha : a ∈ l
  · exact h a ha
  · simp [List.count_eq_zero_of_not_mem ha]

end

namespace Plan

def isCollector (p : Plan) (id : String) : Bool := (p.node? id).any fun n => n.kind == .collector

def fannedOut (p : Plan) (s : String) : List String :=
  ((p.children s).filter fun t => !p.isCollector t).eraseDups

structure WellFormed (p : Plan) : Prop where
  nodup : p.nodeIds.Nodup
  id_eq : ∀ {id n}, p.node? id = some n → n.id = id
  executable : ∀ {id n}, p.node? id = some n → n.kind.isPresentation = false
  child_mem : ∀ {s c}, c ∈ p.children s → c ∈ p.nodeIds
  parent_mem : ∀ {s c}, c ∈ p.children s → s ∈ p.nodeIds
  parents_iff : ∀ {s c}, s ∈ p.parents c ↔ c ∈ p.children s
  entry_iff : ∀ {id}, id ∈ p.entryNodes ↔ id ∈ p.nodeIds ∧ p.parents id = []
  upward : WellFounded fun a b => b ∈ p.children a

lemma WellFormed.not_mem_children {p : Plan} (h : p.WellFormed) {s : String} :
    s ∉ p.children s := fun hs => h.upward.irrefl.irrefl s hs

lemma mem_nodeIds_iff {p : Plan} {id : String} : id ∈ p.nodeIds ↔ ∃ n, p.node? id = some n :=
  ⟨Keyed.exists_of_mem_keys, fun ⟨_, h⟩ => Keyed.mem_keys_of_find? h⟩

lemma mem_fannedOut {p : Plan} {s t : String} :
    t ∈ p.fannedOut s ↔ t ∈ p.children s ∧ p.isCollector t = false := by
  simp [fannedOut, List.mem_eraseDups]

lemma mem_edges_iff {p : Plan} {s t : String} :
    (s, t) ∈ p.edges ↔ ∃ targets, (s, targets) ∈ p.adjacency ∧ t ∈ targets := by
  simp [edges]

lemma mem_parents_iff {p : Plan} {s t : String} : s ∈ p.parents t ↔ (s, t) ∈ p.edges := by
  simp [parents]

lemma parents_iff_of_nodup {p : Plan} (h : (Keyed.keys p.adjacency).Nodup) {s t : String} :
    s ∈ p.parents t ↔ t ∈ p.children s := by
  rw [mem_parents_iff, mem_edges_iff, children]
  constructor
  · rintro ⟨targets, hmem, ht⟩
    simpa [Keyed.find?_of_mem h hmem] using ht
  · intro ht
    cases hf : Keyed.find? p.adjacency s with
    | none => simp [hf] at ht
    | some targets => exact ⟨targets, Keyed.mem_of_find? hf, by simpa [hf] using ht⟩

end Plan

namespace Canvas

variable {c : Canvas} {catalogue : Catalogue}

lemma mem_targetsFrom {edges : List CanvasEdge} {s t : String} :
    t ∈ targetsFrom edges s ↔ ∃ e ∈ edges, e.source = s ∧ e.target = t := by
  simp [targetsFrom, and_assoc]

lemma mem_executableEdges {e : CanvasEdge} :
    e ∈ c.executableEdges ↔
      e ∈ c.edges ∧ e.source ∈ c.executableIds ∧ e.target ∈ c.executableIds := by
  simp [executableEdges]

lemma keys_adjacency : Keyed.keys c.adjacency = c.executableIds := by
  simp [adjacency, Keyed.keys, List.map_map, Function.comp_def]

lemma nodup_executableIds : c.executableIds.Nodup := nodup_eraseDups _

lemma find?_adjacency {id : String} :
    Keyed.find? c.adjacency id =
      if id ∈ c.executableIds then some (targetsFrom c.executableEdges id) else none := by
  split
  · rename_i h
    apply Keyed.find?_of_mem (by rw [keys_adjacency]; exact nodup_executableIds)
    exact List.mem_map_of_mem (f := fun i => (i, targetsFrom c.executableEdges i)) h
  · rename_i h
    rwa [Keyed.find?_eq_none_iff, keys_adjacency]

lemma nodup_of_duplicateNodes (h : Validation.duplicateNodes c = []) :
    (c.nodes.map (·.id)).Nodup := by
  apply nodup_of_count_le_one
  intro id hid
  simp only [Validation.duplicateNodes, List.map_eq_nil_iff, List.filter_eq_nil_iff,
    List.mem_eraseDups, decide_eq_true_eq, not_lt] at h
  exact h id hid

lemma executableIds_of_nodup (h : (c.nodes.map (·.id)).Nodup) :
    c.executableIds = (c.nodes.filter CanvasNode.isExecutable).map (·.id) :=
  eraseDups_of_nodup (h.sublist (List.Sublist.map _ List.filter_sublist))

lemma compiledNodes_of_nodup (catalogue : Catalogue) (h : (c.nodes.map (·.id)).Nodup) :
    Plan.compiledNodes c catalogue =
      (c.nodes.filter CanvasNode.isExecutable).map fun n => (n.id, .ofCanvas catalogue n) := by
  apply Keyed.ofPairs_of_nodup
  have := h.sublist (List.Sublist.map (·.id) (List.filter_sublist (p := CanvasNode.isExecutable)))
  simpa [Keyed.keys, List.map_map, Function.comp_def] using this

lemma checkCycles_eq_nil_iff :
    Validation.checkCycles c = [] ↔
      WellFounded fun a b => b ∈ (Keyed.find? c.adjacency a).getD [] := by
  rw [Validation.checkCycles, List.map_eq_nil_iff]
  apply CycleSearch.cycles_eq_nil_iff
  · intro id hid
    simp [find?_adjacency, hid]
  · intro s t ht
    rw [find?_adjacency] at ht
    split at ht
    · simp only [Option.getD_some] at ht
      obtain ⟨e, he, _, rfl⟩ := mem_targetsFrom.mp ht
      exact (mem_executableEdges.mp he).2.2
    · simp at ht

lemma mem_children_ofCanvas {s t : String} :
    t ∈ (Plan.ofCanvas c catalogue).children s ↔ t ∈ (Keyed.find? c.adjacency s).getD [] := by
  rw [Plan.children, Plan.ofCanvas, Keyed.find?_mapValues]
  cases Keyed.find? c.adjacency s <;> simp [List.mem_eraseDups]

lemma mem_children_iff {s t : String} :
    t ∈ (Plan.ofCanvas c catalogue).children s ↔
      ∃ e ∈ c.executableEdges, e.source = s ∧ e.target = t := by
  rw [mem_children_ofCanvas, find?_adjacency]
  split
  · simp [mem_targetsFrom]
  · rename_i h
    simp only [Option.getD_none, List.not_mem_nil, false_iff, not_exists, not_and]
    rintro e he rfl
    exact absurd (mem_executableEdges.mp he).2.1 h

section Compiled

variable (hn : (c.nodes.map (·.id)).Nodup)
include hn

lemma nodeIds_ofCanvas : (Plan.ofCanvas c catalogue).nodeIds = c.executableIds := by
  rw [executableIds_of_nodup hn, Plan.nodeIds, Plan.ofCanvas, compiledNodes_of_nodup catalogue hn]
  simp [Keyed.keys, List.map_map, Function.comp_def]

lemma exists_of_node? {id : String} {n : PlanNode}
    (h : (Plan.ofCanvas c catalogue).node? id = some n) :
    ∃ m ∈ c.nodes, m.isExecutable = true ∧ m.id = id ∧ n = .ofCanvas catalogue m := by
  have hmem := Keyed.mem_of_find? h
  simp only [Plan.ofCanvas, compiledNodes_of_nodup catalogue hn, List.mem_map,
    Prod.mk.injEq] at hmem
  obtain ⟨m, hm, hid, he⟩ := hmem
  obtain ⟨hm, hx⟩ := List.mem_filter.mp hm
  exact ⟨m, hm, hx, hid, he.symm⟩

end Compiled

lemma nodup_adjacency_ofCanvas : (Keyed.keys (Plan.ofCanvas c catalogue).adjacency).Nodup := by
  have h := nodup_executableIds (c := c)
  rw [← keys_adjacency] at h
  simpa [Plan.ofCanvas, Keyed.keys, Keyed.mapValues, List.map_map, Function.comp_def] using h

lemma mem_parents_ofCanvas {s t : String} :
    s ∈ (Plan.ofCanvas c catalogue).parents t ↔
      ∃ e ∈ c.executableEdges, e.source = s ∧ e.target = t :=
  (Plan.parents_iff_of_nodup nodup_adjacency_ofCanvas).trans mem_children_iff

lemma parents_ofCanvas_eq_nil {id : String} :
    (Plan.ofCanvas c catalogue).parents id = [] ↔ ∀ e ∈ c.executableEdges, e.target ≠ id := by
  rw [List.eq_nil_iff_forall_not_mem]
  constructor
  · intro h e he ht
    exact h e.source (mem_parents_ofCanvas.mpr ⟨e, he, rfl, ht⟩)
  · intro h s hs
    obtain ⟨e, he, _, ht⟩ := mem_parents_ofCanvas.mp hs
    exact h e he ht

lemma checks_of_findings (h : c.findings catalogue = []) :
    Validation.duplicateNodes c = [] ∧ Validation.checkCycles c = [] := by
  simp only [findings, Validation.checkStructure, List.append_eq_nil_iff] at h
  tauto

lemma compile_eq_ok {p : Plan} (h : c.compile catalogue = .ok p) :
    c.findings catalogue = [] ∧ p = Plan.ofCanvas c catalogue := by
  unfold compile at h
  split at h
  · rename_i hf
    exact ⟨hf, (Except.ok.inj h).symm⟩
  · cases h

theorem compile_wellFormed {p : Plan} (h : c.compile catalogue = .ok p) : p.WellFormed := by
  obtain ⟨hf, rfl⟩ := compile_eq_ok h
  obtain ⟨hdup, hcyc⟩ := checks_of_findings hf
  have hn := nodup_of_duplicateNodes hdup
  exact {
    nodup := nodeIds_ofCanvas hn ▸ nodup_executableIds
    id_eq := fun h => by
      obtain ⟨m, _, _, hid, rfl⟩ := exists_of_node? hn h
      exact hid
    executable := fun h => by
      obtain ⟨m, _, hx, _, rfl⟩ := exists_of_node? hn h
      simpa [CanvasNode.isExecutable, PlanNode.ofCanvas] using hx
    child_mem := fun h => by
      obtain ⟨e, he, _, rfl⟩ := mem_children_iff.mp h
      exact nodeIds_ofCanvas hn ▸ (mem_executableEdges.mp he).2.2
    parent_mem := fun h => by
      obtain ⟨e, he, rfl, _⟩ := mem_children_iff.mp h
      exact nodeIds_ofCanvas hn ▸ (mem_executableEdges.mp he).2.1
    parents_iff := Plan.parents_iff_of_nodup nodup_adjacency_ofCanvas
    entry_iff := by
      intro id
      rw [nodeIds_ofCanvas hn, parents_ofCanvas_eq_nil]
      simp [Plan.entryNodes, Plan.ofCanvas]
    upward := by simpa only [mem_children_ofCanvas] using checkCycles_eq_nil_iff.mp hcyc }

end Canvas

end Workflow
