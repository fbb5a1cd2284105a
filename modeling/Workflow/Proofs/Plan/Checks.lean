import Workflow.Proofs.Graph.Reachable
import Workflow.Proofs.Plan.Compiled

/-! What the checks of a canvas's paths look for, and how simple canvases pass them. -/

namespace Workflow.Canvas

variable {c : Canvas} {a b : String}

def Leads (c : Canvas) (a b : String) : Prop := b ∈ c.digraph.successors a

lemma leads_iff : c.Leads a b ↔ ∃ targets, (a, targets) ∈ c.adjacency ∧ b ∈ targets := by
  simp [Leads, Digraph.successors, digraph, List.mem_eraseDups]

lemma Leads.mem_nodes (h : c.Leads a b) : b ∈ c.digraph.nodes := by
  obtain ⟨targets, hmem, hb⟩ := leads_iff.mp h
  obtain ⟨id, _, he⟩ := List.mem_map.mp hmem
  obtain ⟨rfl, rfl⟩ := Prod.mk.inj he
  obtain ⟨e, he, _, rfl⟩ := mem_targetsFrom.mp hb
  exact (mem_executableEdges.mp he).2.2

def Joined (c : Canvas) (id : String) : Prop :=
  ∃ d, d ≠ id ∧ Relation.TransGen c.Leads id d ∧ Keyed.find? c.executableKinds d = some .collector

lemma reachesCollector_iff {id : String} :
    Validation.reachesCollector c.digraph c.executableKinds id = true ↔ c.Joined id := by
  simp only [Validation.reachesCollector, Validation.descendants, List.any_eq_true, List.mem_filter,
    decide_eq_true_eq, beq_iff_eq, Digraph.mem_reachable_iff (g := c.digraph) Leads.mem_nodes]
  constructor
  · rintro ⟨d, ⟨hpath, hne⟩, hd⟩
    exact ⟨d, hne, hpath, hd⟩
  · rintro ⟨d, hne, hpath, hd⟩
    exact ⟨d, ⟨hpath, hne⟩, hd⟩

lemma Joined.successors_ne_nil {id : String} (h : c.Joined id) : c.digraph.successors id ≠ [] := by
  obtain ⟨d, _, hpath, _⟩ := h
  obtain ⟨m, hm, _⟩ := Relation.TransGen.head'_iff.mp hpath
  exact List.ne_nil_of_mem hm

lemma checkPairing_eq_nil_iff :
    Validation.checkPairing c = [] ↔ ∀ e ∈ c.executableKinds,
      (e.2 = .splitter → c.Joined e.1) ∧ (e.2 = .collector → c.digraph.predecessors e.1 ≠ []) := by
  rw [Validation.checkPairing, List.flatMap_eq_nil_iff]
  refine forall₂_congr fun e _ => ?_
  obtain ⟨id, kind⟩ := e
  cases kind with
  | splitter =>
    by_cases hj : c.Joined id
    · simp [Validation.checkPair, reachesCollector_iff, hj, hj.successors_ne_nil]
    · simp only [Validation.checkPair, reachesCollector_iff, hj, if_false]
      split <;> simp
  | collector => simp [Validation.checkPair]
  | _ => simp [Validation.checkPair]

def Forward (c : Canvas) : Prop :=
  ∀ e ∈ c.adjacency, ∀ t ∈ e.2, c.executableIds.idxOf e.1 < c.executableIds.idxOf t

instance : Decidable c.Forward := inferInstanceAs (Decidable
  (∀ e ∈ c.adjacency, ∀ t ∈ e.2, c.executableIds.idxOf e.1 < c.executableIds.idxOf t))

lemma Forward.checkCycles_eq_nil (h : c.Forward) : Validation.checkCycles c = [] := by
  refine checkCycles_eq_nil_iff.mpr (Subrelation.wf ?_ (measure c.executableIds.idxOf).wf)
  intro a b hb
  obtain ⟨targets, hf, ht⟩ : ∃ targets, Keyed.find? c.adjacency a = some targets ∧ b ∈ targets := by
    cases hf : Keyed.find? c.adjacency a with
    | none => simp [hf] at hb
    | some targets => exact ⟨targets, rfl, by simpa [hf] using hb⟩
  exact h _ (Keyed.mem_of_find? hf) b ht

def Near (c : Canvas) : Prop :=
  ∀ e ∈ c.executableKinds,
    (e.2 = .splitter → ∃ m ∈ c.digraph.successors e.1, ∃ d ∈ c.digraph.successors m,
      d ≠ e.1 ∧ Keyed.find? c.executableKinds d = some .collector) ∧
    (e.2 = .collector → c.digraph.predecessors e.1 ≠ [])

instance : Decidable c.Near := inferInstanceAs (Decidable (∀ e ∈ c.executableKinds,
  (e.2 = .splitter → ∃ m ∈ c.digraph.successors e.1, ∃ d ∈ c.digraph.successors m,
    d ≠ e.1 ∧ Keyed.find? c.executableKinds d = some .collector) ∧
  (e.2 = .collector → c.digraph.predecessors e.1 ≠ [])))

lemma Near.checkPairing_eq_nil (h : c.Near) : Validation.checkPairing c = [] := by
  refine checkPairing_eq_nil_iff.mpr fun e he => ⟨fun hs => ?_, (h e he).2⟩
  obtain ⟨m, hm, d, hd, hne, hkind⟩ := (h e he).1 hs
  exact ⟨d, hne, .tail (.single hm) hd, hkind⟩

end Workflow.Canvas
