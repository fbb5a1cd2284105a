import Workflow.Proofs.Document.Matched
import Workflow.Proofs.Plan.EdgeMappings

/-! Canvases that differ in nothing that the checks of ids, edges, cycles, inputs, mappings and pairs
look at. -/

namespace Workflow

lemma Keyed.same_ofPairs {α β : Type} {R : α → α → Prop} {S : β → β → Prop} {name : β → String}
    {value : β → α} {l k : List β} (h : List.Forall₂ S l k)
    (hS : ∀ x y, S x y → name x = name y ∧ R (value x) (value y)) :
    Same R (ofPairs (l.map fun x => (name x, value x)))
      (ofPairs (k.map fun x => (name x, value x))) := by
  have hpairs := h.imp hS
  intro j
  rw [find?_ofPairs, find?_ofPairs, ← List.map_reverse, ← List.map_reverse]
  refine rel_find? ?_ j
  rw [List.forall₂_map_left_iff, List.forall₂_map_right_iff, List.forall₂_reverse_iff]
  exact hpairs

structure InputSchema.Like (counts : Bool) (s t : InputSchema) : Prop where
  required : s.isRequired = t.isRequired
  default : counts = true → s.hasDefault = t.hasDefault

structure CanvasNode.Like (n m : CanvasNode) : Prop where
  id : n.id = m.id
  kind : n.kind = m.kind
  workerType : n.data.workerType = m.data.workerType
  inputs : Option.Rel (Keyed.Same (InputSchema.Like n.isExecutable)) n.data.inputs m.data.inputs
  outputs : Option.Rel (Keyed.Same fun _ _ => True) n.data.outputs m.data.outputs

namespace CanvasNode.Like

variable {n m : CanvasNode} (h : n.Like m) (catalogue : Catalogue)
include h

lemma isExecutable : n.isExecutable = m.isExecutable := by
  rw [CanvasNode.isExecutable, h.kind, ← CanvasNode.isExecutable]

lemma workerDefinition? : n.workerDefinition? catalogue = m.workerDefinition? catalogue := by
  rw [CanvasNode.workerDefinition?, CanvasNode.workerDefinition?, h.kind, h.workerType]

lemma declaredInputs : Option.Rel (Keyed.Same (InputSchema.Like n.isExecutable))
    (n.declaredInputs catalogue) (m.declaredInputs catalogue) := by
  have hself : ∀ s : InputSchema, s.Like n.isExecutable s := fun s => ⟨rfl, fun _ => rfl⟩
  have hinputs := h.inputs
  rw [CanvasNode.declaredInputs, CanvasNode.declaredInputs, h.workerDefinition?]
  generalize n.data.inputs = a, m.data.inputs = b at hinputs
  cases hinputs with
  | none => exact rel_refl (Keyed.Same.refl hself) _
  | some hs => exact .some hs

lemma declaredOutputs : Option.Rel (Keyed.Same fun _ _ => True) (n.declaredOutputs catalogue)
    (m.declaredOutputs catalogue) := by
  have houtputs := h.outputs
  rw [CanvasNode.declaredOutputs, CanvasNode.declaredOutputs, h.workerDefinition?]
  generalize n.data.outputs = a, m.data.outputs = b at houtputs
  cases houtputs with
  | none => exact rel_refl (Keyed.Same.refl fun _ => trivial) _
  | some hs => exact .some hs

omit h in
lemma has_eq {α : Type} {R : α → α → Prop} {a b : Keyed α} (h : Keyed.Same R a b) (k : String) :
    Keyed.has a k = Keyed.has b k := rel_isSome (h k)

lemma exists_input (hm : m.data.Neat) {i : String × InputSchema}
    (hi : i ∈ (m.declaredInputs catalogue).getD []) :
    ∃ j ∈ (n.declaredInputs catalogue).getD [], j.1 = i.1 ∧ j.2.Like n.isExecutable i.2 := by
  have hinputs := h.inputs
  have hnodup := hm.inputs
  rw [CanvasNode.declaredInputs] at hi ⊢
  rw [h.workerDefinition?]
  generalize n.data.inputs = a, m.data.inputs = b at hinputs hnodup hi ⊢
  cases hinputs with
  | none => exact ⟨i, hi, rfl, rfl, fun _ => rfl⟩
  | some hs =>
    obtain ⟨s, hs, hlike⟩ := hs.flip.exists_left (hnodup _ rfl).nodup hi
    exact ⟨(i.1, s), Keyed.mem_of_find? hs, rfl, hlike⟩

end CanvasNode.Like

structure CanvasEdge.Like (e d : CanvasEdge) : Prop where
  source : e.source = d.source
  target : e.target = d.target
  mapping : Keyed.Same Eq e.mapping d.mapping

structure Canvas.Like (c d : Canvas) : Prop where
  nodes : List.Forall₂ CanvasNode.Like c.nodes d.nodes
  edges : List.Forall₂ CanvasEdge.Like c.edges d.edges

namespace Canvas

variable {c d : Canvas} {catalogue : Catalogue}

lemma findings_eq_nil_iff : c.findings catalogue = [] ↔
    (Validation.checkStructure c = [] ∧ Validation.checkCycles c = [] ∧
      Validation.checkInputs c catalogue = [] ∧ Validation.checkMappings c catalogue = [] ∧
      Validation.checkPairing c = []) ∧
    Validation.checkWorkers c catalogue = [] ∧ Validation.checkMovement c = [] := by
  simp only [findings, List.append_eq_nil_iff]
  tauto

lemma checkPath_same {edge edge' input path source source' : String}
    {a b : Option (Keyed OutputSchema)} (hab : Option.Rel (Keyed.Same fun _ _ => True) a b)
    (h : Validation.checkPath edge input path source a = []) :
    Validation.checkPath edge' input path source' b = [] := by
  unfold Validation.checkPath at h ⊢
  split_ifs at h ⊢
  cases hab with
  | none => rfl
  | some hs => simpa [CanvasNode.Like.has_eq hs] using h

lemma checkEntry_like {edge edge' : String} {s s' t t' : CanvasNode} {entry : String × String}
    (hs : s.Like s') (ht : t.Like t') (h : Validation.checkEntry edge s t catalogue entry = []) :
    Validation.checkEntry edge' s' t' catalogue entry = [] := by
  have hinputs := ht.declaredInputs catalogue
  rw [Validation.checkEntry, List.append_eq_nil_iff] at h ⊢
  refine ⟨?_, checkPath_same (hs.declaredOutputs catalogue) h.2⟩
  have hdeclared := h.1
  generalize t.declaredInputs catalogue = a, t'.declaredInputs catalogue = b at hinputs hdeclared
  cases hinputs with
  | none => rfl
  | some hi => simpa [CanvasNode.Like.has_eq hi] using hdeclared

namespace Like

variable (h : c.Like d)
include h

lemma ids : c.nodes.map (·.id) = d.nodes.map (·.id) :=
  map_eq_of_forall₂ h.nodes fun _ _ hnm => hnm.id

lemma executables : List.Forall₂ CanvasNode.Like (c.nodes.filter CanvasNode.isExecutable)
    (d.nodes.filter CanvasNode.isExecutable) :=
  forall₂_filter h.nodes fun _ _ hnm => hnm.isExecutable

lemma executableIds : c.executableIds = d.executableIds :=
  congrArg List.eraseDups (map_eq_of_forall₂ h.executables fun _ _ hnm => hnm.id)

lemma executableEdges : List.Forall₂ CanvasEdge.Like c.executableEdges d.executableEdges := by
  rw [Canvas.executableEdges, Canvas.executableEdges, h.executableIds]
  exact forall₂_filter h.edges fun e e' he => by rw [he.source, he.target]

lemma adjacency : c.adjacency = d.adjacency := by
  have htargets : targetsFrom c.executableEdges = targetsFrom d.executableEdges := by
    funext id
    exact map_eq_of_forall₂ (forall₂_filter h.executableEdges fun e e' he => by rw [he.source])
      fun _ _ he => he.target
  rw [Canvas.adjacency, Canvas.adjacency, h.executableIds, htargets]

lemma digraph : c.digraph = d.digraph := by
  rw [Canvas.digraph, Canvas.digraph, h.executableIds, h.adjacency]

lemma executableKinds : c.executableKinds = d.executableKinds :=
  congrArg Keyed.ofPairs (map_eq_of_forall₂ h.executables fun _ _ hnm => by rw [hnm.id, hnm.kind])

lemma nodeMap : Keyed.Same CanvasNode.Like c.nodeMap d.nodeMap :=
  Keyed.same_ofPairs h.nodes fun _ _ hnm => ⟨hnm.id, hnm⟩

lemma mappedInputs {id input : String} :
    input ∈ Validation.mappedInputs c id ↔ input ∈ Validation.mappedInputs d id := by
  have hedges := forall₂_filter h.edges (p := fun e => e.target = id) fun e e' he => by rw [he.target]
  rw [Validation.mappedInputs, Validation.mappedInputs]
  generalize c.edges.filter _ = l, d.edges.filter _ = k at hedges
  induction hedges with
  | nil => rfl
  | @cons e e' _ _ he _ ih =>
    have hkeys : input ∈ Keyed.keys e.mapping ↔ input ∈ Keyed.keys e'.mapping := by
      rw [← Keyed.has_iff_mem_keys, ← Keyed.has_iff_mem_keys, Keyed.has, Keyed.has,
        rel_isSome (he.mapping input)]
    rw [List.flatMap_cons, List.flatMap_cons, List.mem_append, List.mem_append]
    exact or_congr hkeys ih

lemma checkStructure (hc : Validation.checkStructure c = []) : Validation.checkStructure d = [] := by
  rw [Validation.checkStructure, List.append_eq_nil_iff, List.flatMap_eq_nil_iff,
    Validation.duplicateNodes] at hc ⊢
  rw [← h.ids]
  refine ⟨hc.1, fun e he => ?_⟩
  obtain ⟨e', he', hlike⟩ := exists_of_forall₂ h.edges he
  have hends := hc.2 e' he'
  simpa [Validation.danglingEnds, hlike.source, hlike.target] using hends

lemma checkCycles : Validation.checkCycles c = Validation.checkCycles d := by
  rw [Validation.checkCycles, Validation.checkCycles, Validation.canvasCycles,
    Validation.canvasCycles, h.executableIds, h.adjacency]

lemma checkPairing : Validation.checkPairing c = Validation.checkPairing d := by
  rw [Validation.checkPairing, Validation.checkPairing, h.digraph, h.executableKinds]

lemma checkInputs (hd : d.Neat) (hc : Validation.checkInputs c catalogue = []) :
    Validation.checkInputs d catalogue = [] := by
  rw [Validation.checkInputs, List.flatMap_eq_nil_iff] at hc ⊢
  intro m hm
  obtain ⟨n, hn, hlike⟩ := exists_of_forall₂ h.nodes hm
  have hnode := hc n hn
  rw [Validation.checkNodeInputs, hlike.isExecutable, hlike.id] at hnode
  rw [Validation.checkNodeInputs]
  split
  · rfl
  · rename_i hexecutable
    rw [if_neg hexecutable, List.map_eq_nil_iff, List.filter_eq_nil_iff] at hnode
    rw [List.map_eq_nil_iff, List.filter_eq_nil_iff]
    intro i hi
    obtain ⟨j, hj, hname, hinput⟩ := hlike.exists_input catalogue (hd.nodes m hm) hi
    have hdefault := hinput.default (by simpa [hlike.isExecutable] using hexecutable)
    simpa [hname, hinput.required, hdefault, h.mappedInputs] using hnode j hj

lemma checkMappings (hd : d.Neat) (hc : Validation.checkMappings c catalogue = []) :
    Validation.checkMappings d catalogue = [] := by
  rw [Validation.checkMappings, List.flatMap_eq_nil_iff] at hc ⊢
  intro e he
  obtain ⟨e', he', hlike⟩ := exists_of_forall₂ h.edges he
  have hedge := hc e' he'
  have hsource := h.nodeMap e.source
  have htarget := h.nodeMap e.target
  rw [Validation.checkMapping, hlike.source, hlike.target] at hedge
  rw [Validation.checkMapping]
  generalize Keyed.find? c.nodeMap e.source = s, Keyed.find? d.nodeMap e.source = s',
    Keyed.find? c.nodeMap e.target = t, Keyed.find? d.nodeMap e.target = t'
    at hsource htarget hedge ⊢
  cases hsource with
  | none => rfl
  | some hsource =>
    cases htarget with
    | none => rfl
    | some htarget =>
      rw [List.flatMap_eq_nil_iff] at hedge ⊢
      intro entry hentry
      obtain ⟨path, hpath, rfl⟩ := hlike.mapping.flip.exists_left (hd.edges e he) hentry
      exact checkEntry_like hsource htarget (hedge _ (Keyed.mem_of_find? hpath))

lemma checks (hd : d.Neat) (hc : Validation.checkStructure c = [] ∧ Validation.checkCycles c = [] ∧
    Validation.checkInputs c catalogue = [] ∧ Validation.checkMappings c catalogue = [] ∧
    Validation.checkPairing c = []) :
    Validation.checkStructure d = [] ∧ Validation.checkCycles d = [] ∧
      Validation.checkInputs d catalogue = [] ∧ Validation.checkMappings d catalogue = [] ∧
      Validation.checkPairing d = [] :=
  ⟨h.checkStructure hc.1, h.checkCycles ▸ hc.2.1, h.checkInputs hd hc.2.2.1,
    h.checkMappings hd hc.2.2.2.1, h.checkPairing ▸ hc.2.2.2.2⟩

end Like

end Canvas

end Workflow
