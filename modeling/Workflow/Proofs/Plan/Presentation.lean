import Workflow.Proofs.Plan.Exact

/-! Edges at presentation nodes: which checks pass over them, and when none of them tells. -/

namespace Workflow

lemma flatMap_eq_iff_of_sublist {α β : Type} {f g : α → List β} {l : List α}
    (h : ∀ a ∈ l, (f a).Sublist (g a)) :
    l.flatMap f = l.flatMap g ↔ ∀ a ∈ l, f a = g a := by
  refine ⟨fun heq => ?_, List.flatMap_congr⟩
  induction l with
  | nil => simp
  | cons a l ih =>
    have hrest : ∀ b ∈ l, (f b).Sublist (g b) := fun b hb => h b (List.mem_cons_of_mem _ hb)
    have hhead : (f a).Sublist (g a) := h a List.mem_cons_self
    have htail : (l.flatMap f).Sublist (l.flatMap g) := .flatMap_right l hrest
    rw [List.flatMap_cons, List.flatMap_cons] at heq
    have hlength := congrArg List.length heq
    have := hhead.length_le
    have := htail.length_le
    simp only [List.length_append] at hlength
    have ha : f a = g a := hhead.eq_of_length (by omega)
    rw [ha] at heq
    exact List.forall_mem_cons.mpr ⟨ha, ih hrest (List.append_cancel_left heq)⟩

lemma map_filter_eq_iff {α β : Type} {p q : α → Bool} {f : α → β} {l : List α}
    (h : ∀ a, p a = true → q a = true) :
    (l.filter p).map f = (l.filter q).map f ↔ ∀ a ∈ l, q a = true → p a = true := by
  constructor
  · intro heq a ha hq
    have hlength := congrArg List.length heq
    rw [List.length_map, List.length_map] at hlength
    have hfilter := (List.monotone_filter_right l h).eq_of_length hlength
    have hmem : a ∈ l.filter p := hfilter ▸ List.mem_filter.mpr ⟨ha, hq⟩
    exact (List.mem_filter.mp hmem).2
  · intro hall
    rw [List.filter_congr fun a ha => Bool.eq_iff_iff.mpr ⟨h a, hall a ha⟩]

namespace Canvas

variable {c : Canvas} {catalogue : Catalogue}

def isPresentational (c : Canvas) (id : String) : Bool :=
  c.nodes.any (fun n => n.id = id) && !c.executableIds.contains id

def touchesPresentation (c : Canvas) (e : CanvasEdge) : Bool :=
  c.isPresentational e.source || c.isPresentational e.target

def withoutPresentationEdges (c : Canvas) : Canvas where
  nodes? := c.nodes?
  edges? := c.edges?.map fun edges => edges.filter fun e => !c.touchesPresentation e

lemma mem_executableIds {id : String} :
    id ∈ c.executableIds ↔ ∃ n ∈ c.nodes, n.isExecutable = true ∧ n.id = id := by
  simp [executableIds, List.mem_eraseDups, and_assoc]

lemma touchesPresentation_iff
    (hkinds : ∀ m ∈ c.nodes, ∀ n ∈ c.nodes, m.id = n.id → m.isExecutable = n.isExecutable)
    {e : CanvasEdge} : c.touchesPresentation e = true ↔
      ∃ n ∈ c.nodes, n.kind.isPresentation = true ∧ (e.source = n.id ∨ e.target = n.id) := by
  -- Where presentation nodes share no id with other nodes, an edge is left out for the kind of one
  -- of its ends alone.
  have hid : ∀ id, c.isPresentational id = true ↔
      ∃ n ∈ c.nodes, n.kind.isPresentation = true ∧ id = n.id := by
    intro id
    simp only [isPresentational, Bool.and_eq_true, List.any_eq_true, decide_eq_true_eq,
      Bool.not_eq_true', List.contains_eq_mem, decide_eq_false_iff_not, mem_executableIds]
    constructor
    · rintro ⟨⟨n, hn, rfl⟩, hnone⟩
      have hx : n.isExecutable ≠ true := fun hx => hnone ⟨n, hn, hx, rfl⟩
      exact ⟨n, hn, by simpa [CanvasNode.isExecutable] using hx, rfl⟩
    · rintro ⟨n, hn, hkind, rfl⟩
      refine ⟨⟨n, hn, rfl⟩, ?_⟩
      rintro ⟨m, hm, hx, he⟩
      have := hkinds m hm n hn he
      simp [CanvasNode.isExecutable, hkind] at this hx
      exact absurd this (by simp [hx])
  rw [touchesPresentation, Bool.or_eq_true, hid, hid]
  constructor
  · rintro (⟨n, hn, hk, he⟩ | ⟨n, hn, hk, he⟩)
    · exact ⟨n, hn, hk, .inl he⟩
    · exact ⟨n, hn, hk, .inr he⟩
  · rintro ⟨n, hn, hk, he | he⟩
    · exact .inl ⟨n, hn, hk, he⟩
    · exact .inr ⟨n, hn, hk, he⟩

@[simp] lemma nodes_without : c.withoutPresentationEdges.nodes = c.nodes := rfl

@[simp] lemma nodeMap_without : c.withoutPresentationEdges.nodeMap = c.nodeMap := rfl

@[simp] lemma executableIds_without :
    c.withoutPresentationEdges.executableIds = c.executableIds := rfl

lemma edges_without : c.withoutPresentationEdges.edges =
    c.edges.filter fun e => !c.touchesPresentation e := by
  rw [edges, edges, withoutPresentationEdges]
  cases c.edges? <;> rfl

@[simp] lemma executableEdges_without :
    c.withoutPresentationEdges.executableEdges = c.executableEdges := by
  rw [executableEdges, executableEdges, edges_without, List.filter_filter]
  refine List.filter_congr fun e _ => ?_
  by_cases hs : e.source ∈ c.executableIds <;> by_cases ht : e.target ∈ c.executableIds <;>
    simp [touchesPresentation, isPresentational, hs, ht]

@[simp] lemma adjacency_without : c.withoutPresentationEdges.adjacency = c.adjacency := by
  simp [adjacency]

@[simp] lemma digraph_without : c.withoutPresentationEdges.digraph = c.digraph := by
  simp [digraph]

lemma ofCanvas_without :
    Plan.ofCanvas c.withoutPresentationEdges catalogue = Plan.ofCanvas c catalogue := by
  simp [Plan.ofCanvas, Plan.compiledNodes]

lemma checkCycles_without :
    Validation.checkCycles c.withoutPresentationEdges = Validation.checkCycles c := by
  simp [Validation.checkCycles, Validation.canvasCycles]

lemma checkPairing_without :
    Validation.checkPairing c.withoutPresentationEdges = Validation.checkPairing c := by
  simp [Validation.checkPairing, executableKinds]

lemma checkStructure_without
    (hends : ∀ e ∈ c.edges, e.source ∈ c.nodes.map (·.id) ∧ e.target ∈ c.nodes.map (·.id)) :
    Validation.checkStructure c.withoutPresentationEdges = Validation.checkStructure c := by
  have hnone : ∀ e ∈ c.edges, Validation.danglingEnds (c.nodes.map (·.id)) e = [] := by
    intro e he
    obtain ⟨hs, ht⟩ := hends e he
    simp [Validation.danglingEnds, List.mem_map.mp hs, List.mem_map.mp ht]
  have hkept : ∀ e ∈ c.withoutPresentationEdges.edges,
      Validation.danglingEnds (c.nodes.map (·.id)) e = [] := by
    intro e he
    rw [edges_without] at he
    exact hnone e (List.mem_filter.mp he).1
  rw [Validation.checkStructure, Validation.checkStructure, nodes_without,
    List.flatMap_eq_nil_iff.mpr hnone, List.flatMap_eq_nil_iff.mpr hkept]
  rfl

/-- The mappings of edges at presentation nodes have no part in what the checks look for: they are
in order, and no required input counts as mapped for their sake. -/
structure Incidental (c : Canvas) (catalogue : Catalogue) : Prop where
  mappings : ∀ e ∈ c.edges, c.touchesPresentation e = true →
    Validation.checkMapping c.nodeMap catalogue e = []
  inputs : ∀ n ∈ c.nodes, n.isExecutable = true → ∀ i ∈ (n.declaredInputs catalogue).getD [],
    i.2.isRequired = true → i.2.hasDefault = false → i.1 ∈ Validation.mappedInputs c n.id →
      i.1 ∈ Validation.mappedInputs c.withoutPresentationEdges n.id

lemma checkMappings_without_iff :
    Validation.checkMappings c.withoutPresentationEdges catalogue =
        Validation.checkMappings c catalogue ↔
      ∀ e ∈ c.edges, c.touchesPresentation e = true →
        Validation.checkMapping c.nodeMap catalogue e = [] := by
  have hkept : Validation.checkMappings c.withoutPresentationEdges catalogue =
      c.edges.flatMap fun e =>
        if c.touchesPresentation e then [] else Validation.checkMapping c.nodeMap catalogue e := by
    rw [Validation.checkMappings, edges_without, nodeMap_without]
    generalize c.edges = edges
    induction edges with
    | nil => rfl
    | cons e edges ih => by_cases he : c.touchesPresentation e = true <;> simp [he, ih]
  rw [hkept, Validation.checkMappings, flatMap_eq_iff_of_sublist]
  · refine forall₂_congr fun e _ => ?_
    by_cases he : c.touchesPresentation e = true <;> simp [he]
  · intro e _
    split
    · exact List.nil_sublist _
    · exact List.Sublist.refl _

lemma mappedInputs_without_subset {id i : String}
    (h : i ∈ Validation.mappedInputs c.withoutPresentationEdges id) :
    i ∈ Validation.mappedInputs c id := by
  simp only [Validation.mappedInputs, edges_without, List.mem_flatMap, List.mem_filter] at h ⊢
  obtain ⟨e, ⟨⟨he, _⟩, ht⟩, hi⟩ := h
  exact ⟨e, ⟨he, ht⟩, hi⟩

lemma checkInputs_without_iff :
    Validation.checkInputs c.withoutPresentationEdges catalogue =
        Validation.checkInputs c catalogue ↔
      ∀ n ∈ c.nodes, n.isExecutable = true → ∀ i ∈ (n.declaredInputs catalogue).getD [],
        i.2.isRequired = true → i.2.hasDefault = false → i.1 ∈ Validation.mappedInputs c n.id →
          i.1 ∈ Validation.mappedInputs c.withoutPresentationEdges n.id := by
  let missing (d : Canvas) (n : CanvasNode) (i : String × InputSchema) : Bool :=
    i.2.isRequired && !(Validation.mappedInputs d n.id).contains i.1 && !i.2.hasDefault
  have hnode (d : Canvas) (n : CanvasNode) : Validation.checkNodeInputs d catalogue n =
      if n.isExecutable then (((n.declaredInputs catalogue).getD []).filter (missing d n)).map
        fun i => Validation.missingInput n.id i.1 else [] := by
    cases hx : n.isExecutable <;> simp [Validation.checkNodeInputs, missing, hx]
  -- Fewer edges fill fewer inputs, so each node has at least as many findings as before.
  have hgrows : ∀ n i, missing c n i = true → missing c.withoutPresentationEdges n i = true := by
    intro n i h
    simp only [missing, Bool.and_eq_true, Bool.not_eq_true', List.contains_eq_mem,
      decide_eq_false_iff_not] at h ⊢
    exact ⟨⟨h.1.1, fun hm => h.1.2 (mappedInputs_without_subset hm)⟩, h.2⟩
  rw [eq_comm, Validation.checkInputs, Validation.checkInputs, nodes_without,
    flatMap_eq_iff_of_sublist]
  · refine forall₂_congr fun n _ => ?_
    rw [hnode, hnode]
    by_cases hx : n.isExecutable = true
    · simp only [hx, if_true, forall_const]
      rw [map_filter_eq_iff (hgrows n)]
      refine forall₂_congr fun i _ => ?_
      simp only [missing, Bool.and_eq_true, Bool.not_eq_true', List.contains_eq_mem,
        decide_eq_false_iff_not]
      tauto
    · simp [hx]
  · intro n _
    rw [hnode, hnode]
    split
    · exact (List.monotone_filter_right _ (hgrows n)).map _
    · exact List.Sublist.refl _

/-- Cycles, worker types and pairings are told without a look at edges that touch presentation
nodes. The checks of inputs and of mappings do look at them, so that leaving these edges out changes
what is told or compiled, unless they are incidental. -/
theorem presentation_edges_invisible_iff
    (hends : ∀ e ∈ c.edges, e.source ∈ c.nodes.map (·.id) ∧ e.target ∈ c.nodes.map (·.id)) :
    (Validation.checkCycles c.withoutPresentationEdges = Validation.checkCycles c ∧
      Validation.checkWorkers c.withoutPresentationEdges catalogue =
        Validation.checkWorkers c catalogue ∧
      Validation.checkPairing c.withoutPresentationEdges = Validation.checkPairing c) ∧
    (Validation.checkInputs c.withoutPresentationEdges catalogue =
        Validation.checkInputs c catalogue ∧
      Validation.checkMappings c.withoutPresentationEdges catalogue =
        Validation.checkMappings c catalogue ∧
      c.withoutPresentationEdges.compile catalogue = c.compile catalogue ↔
        c.Incidental catalogue) := by
  refine ⟨⟨checkCycles_without, rfl, checkPairing_without⟩, ?_⟩
  rw [checkInputs_without_iff, checkMappings_without_iff]
  constructor
  · rintro ⟨hinputs, hmappings, -⟩
    exact ⟨hmappings, hinputs⟩
  · rintro ⟨hmappings, hinputs⟩
    refine ⟨hinputs, hmappings, ?_⟩
    have hfindings : c.withoutPresentationEdges.findings catalogue = c.findings catalogue := by
      rw [findings, checkStructure_without hends, checkCycles_without,
        checkInputs_without_iff.mpr hinputs, checkMappings_without_iff.mpr hmappings,
        checkPairing_without]
      rfl
    rw [compile, compile, hfindings, ofCanvas_without]

theorem boxedFork_edges_invisible :
    (∀ e ∈ boxedFork.edges, e.source ∈ boxedFork.nodes.map (·.id) ∧
      e.target ∈ boxedFork.nodes.map (·.id)) ∧
    boxedFork.withoutPresentationEdges ≠ boxedFork ∧
    boxedFork.withoutPresentationEdges.compile [] = boxedFork.compile [] := by
  have hends : ∀ e ∈ boxedFork.edges, e.source ∈ boxedFork.nodes.map (·.id) ∧
      e.target ∈ boxedFork.nodes.map (·.id) := by decide +kernel
  refine ⟨hends, by decide +kernel, ?_⟩
  exact ((presentation_edges_invisible_iff hends).2.mpr
    ⟨by decide +kernel, by decide +kernel⟩).2.2

def filledFromBox : Canvas :=
  let text : InputSchema := ⟨none, some true, none, none⟩
  let worker := CanvasNode.bare "W" .worker [("webhook_url", .str "http://host")]
  { nodes? := some [.bare "S" .frame [], { worker with
      data? := some { worker.data with inputs? := some (some [("text", text)]) } }]
    edges? := some [.bare "S" "W" [("text", "a")]] }

theorem box_fills_input :
    (∀ e ∈ filledFromBox.edges, e.source ∈ filledFromBox.nodes.map (·.id) ∧
      e.target ∈ filledFromBox.nodes.map (·.id)) ∧
    Validation.checkInputs filledFromBox [] = [] ∧
    Validation.checkInputs filledFromBox.withoutPresentationEdges [] =
      [Validation.missingInput "W" "text"] ∧
    filledFromBox.compile [] = .ok (.ofCanvas filledFromBox []) ∧
    ∃ findings, filledFromBox.withoutPresentationEdges.compile [] = .error findings := by
  have hinputs : Validation.checkInputs filledFromBox.withoutPresentationEdges [] =
      [Validation.missingInput "W" "text"] := by decide +kernel
  refine ⟨by decide +kernel, by decide +kernel, hinputs,
    compile_of_checks (by decide +kernel) (by decide +kernel) (by decide +kernel), ?_⟩
  rw [compile]
  split
  · rename_i hnone
    simp [findings, hinputs] at hnone
  · exact ⟨_, rfl⟩

end Canvas

end Workflow
