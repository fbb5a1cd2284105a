import Workflow.Proofs.Document.Written
import Workflow.Proofs.Plan.Likeness

/-! What is read back of a canvas compiles to what is read back of its plan, as long as no worker has
lost its address. -/

namespace Workflow

variable {catalogue : Catalogue} {c : Canvas}

lemma Keyed.mapValues_set {α β : Type} (f : α → β) (m : Keyed α) (k : String) (v : α) :
    mapValues f (set m k v) = set (mapValues f m) k (f v) := by
  induction m with
  | nil => rfl
  | cons e m ih =>
    have hcons : ∀ e m, mapValues f (e :: m) = (e.1, f e.2) :: mapValues f m := fun _ _ => rfl
    rw [set, hcons, set]
    split
    · rfl
    · rw [hcons, ih]

lemma Keyed.mapValues_ofPairs {α β : Type} (f : α → β) (l : List (String × α)) :
    mapValues f (ofPairs l) = ofPairs (mapValues f l) := by
  induction l using List.reverseRecOn with
  | nil => rfl
  | append_singleton l e ih =>
    have happend : mapValues f (l ++ [e]) = mapValues f l ++ [(e.1, f e.2)] := List.map_append
    rw [ofPairs_concat, mapValues_set, ih, happend, ofPairs_concat]

namespace InputSchema

lemma written_written (s : InputSchema) : s.written.written = s.written :=
  written_eq_self_iff.mpr s.durable_written

lemma like_written (counts : Bool) (s : InputSchema) : s.Like counts s.written :=
  ⟨rfl, fun _ => (Option.isSome_map ..).symm⟩

end InputSchema

namespace CanvasNode

variable (n : CanvasNode)

lemma data_written : n.written.data = n.data.written := by
  change (n.data?.map NodeData.written).getD .empty = (n.data?.getD .empty).written
  cases n.data? <;> rfl

lemma movements_written : n.written.data.movements = n.data.movements := by
  rw [data_written]
  rfl

lemma inputs_written : n.written.data.inputs =
    n.data.inputs.map (Keyed.mapValues InputSchema.written) := by
  rw [data_written]
  change (n.data.inputs?.map (Option.map (Keyed.mapValues InputSchema.written))).join =
    n.data.inputs?.join.map _
  rcases n.data.inputs? with _ | _ | m <;> rfl

lemma like_written : n.Like n.written where
  id := rfl
  kind := rfl
  workerType := by
    rw [data_written]
    rfl
  inputs := by
    rw [inputs_written]
    cases n.data.inputs with
    | none => exact .none
    | some m =>
      refine .some fun k => ?_
      rw [Keyed.find?_mapValues]
      cases Keyed.find? m k with
      | none => exact .none
      | some s => exact .some (s.like_written _)
  outputs := by
    rw [data_written]
    exact rel_refl (Keyed.Same.refl fun _ => trivial) _

lemma declaredInputs_written (catalogue : Catalogue) :
    (n.written.declaredInputs catalogue).map (Keyed.mapValues InputSchema.written) =
      (n.declaredInputs catalogue).map (Keyed.mapValues InputSchema.written) := by
  rw [declaredInputs, declaredInputs, inputs_written, ← n.like_written.workerDefinition?]
  cases n.data.inputs with
  | none => rfl
  | some m =>
    refine congrArg some ?_
    rw [Keyed.mapValues, Keyed.mapValues, List.map_map]
    exact List.map_congr_left fun e _ => congrArg (e.1, ·) e.2.written_written

end CanvasNode

lemma PlanNode.ofCanvas_written (n : CanvasNode) :
    (ofCanvas catalogue n.written).written = (ofCanvas catalogue n).written := by
  have hinputs := n.declaredInputs_written catalogue
  have hconfig : Json.writtenMembers n.written.data.config = Json.writtenMembers n.data.config := by
    rw [CanvasNode.data_written]
    change Json.writtenMembers ((n.data.config?.map Json.writtenMembers).getD []) = _
    rw [NodeData.config]
    cases n.data.config? with
    | none => rfl
    | some m => exact Json.writtenMembers_written m
  have houtputs : n.written.declaredOutputs catalogue = n.declaredOutputs catalogue := by
    rw [CanvasNode.declaredOutputs, CanvasNode.declaredOutputs,
      ← n.like_written.workerDefinition?, CanvasNode.data_written]
    rfl
  simp only [written, ofCanvas, Option.map_some, PlanNode.mk.injEq, Option.some.injEq]
  exact ⟨rfl, rfl, n.like_written.workerType.symm, hconfig, hinputs, houtputs,
    n.movements_written⟩

namespace Canvas

lemma nodes_written (c : Canvas) : c.written.nodes = c.nodes.map CanvasNode.written := by
  change (c.nodes?.map (List.map CanvasNode.written)).getD [] = (c.nodes?.getD []).map _
  cases c.nodes? <;> rfl

lemma edges_written (c : Canvas) : c.written.edges = c.edges.map CanvasEdge.written := by
  change (c.edges?.map (List.map CanvasEdge.written)).getD [] = (c.edges?.getD []).map _
  cases c.edges? <;> rfl

lemma mapping_written (e : CanvasEdge) : e.written.mapping = e.mapping := by
  change ((e.data?.map (Option.map EdgeData.written)).join.bind _).getD [] =
    (e.data?.join.bind _).getD []
  rcases e.data? with _ | _ | d <;> rfl

lemma like_written (c : Canvas) : c.Like c.written where
  nodes := by
    rw [nodes_written, List.forall₂_map_right_iff, List.forall₂_same]
    exact fun n _ => n.like_written
  edges := by
    rw [edges_written, List.forall₂_map_right_iff, List.forall₂_same]
    exact fun e _ => ⟨rfl, rfl, mapping_written e ▸ .refl (fun _ => rfl) _⟩

end Canvas

namespace Plan

lemma compiledNodes_written (c : Canvas) :
    Keyed.mapValues PlanNode.written (compiledNodes c.written catalogue) =
      Keyed.mapValues PlanNode.written (compiledNodes c catalogue) := by
  rw [compiledNodes, compiledNodes, Keyed.mapValues_ofPairs, Keyed.mapValues_ofPairs,
    Canvas.nodes_written, List.filter_map]
  refine congrArg Keyed.ofPairs ?_
  simp only [Keyed.mapValues, List.map_map]
  exact List.map_congr_left fun n _ => congrArg (n.id, ·) (PlanNode.ofCanvas_written n)

lemma addMappings_written (c : Canvas) :
    c.written.executableEdges.foldl addMapping [] = c.executableEdges.foldl addMapping [] := by
  have hedges : c.written.executableEdges = c.executableEdges.map CanvasEdge.written := by
    rw [Canvas.executableEdges, Canvas.executableEdges, ← c.like_written.executableIds,
      Canvas.edges_written, List.filter_map]
    rfl
  have hadd : ∀ data e, addMapping data (CanvasEdge.written e) = addMapping data e := by
    intro data e
    rw [addMapping, addMapping, Canvas.mapping_written]
    rfl
  rw [hedges, List.foldl_map]
  simp only [hadd]

theorem ofCanvas_written (c : Canvas) (catalogue : Catalogue) :
    (ofCanvas c.written catalogue).written = (ofCanvas c catalogue).written := by
  have htargets : c.executableEdges.map (·.target) = c.written.executableEdges.map (·.target) :=
    map_eq_of_forall₂ c.like_written.executableEdges fun _ _ he => he.target
  simp only [written, ofCanvas, compiledNodes_written, addMappings_written,
    ← c.like_written.adjacency, ← c.like_written.executableIds, ← htargets]

end Plan

namespace Canvas

lemma checkMovement_written (c : Canvas) :
    Validation.checkMovement c.written = Validation.checkMovement c := by
  have hsections : Validation.sections c.written = Validation.sections c := by
    rw [Validation.sections, Validation.sections, nodes_written, List.filter_map, List.map_map]
    rfl
  have hnode : ∀ (l : List String) (n : CanvasNode),
      Validation.checkNodeMovement l n.written = Validation.checkNodeMovement l n := by
    intro l n
    rw [Validation.checkNodeMovement, Validation.checkNodeMovement, n.movements_written]
    rfl
  rw [Validation.checkMovement, Validation.checkMovement, hsections, nodes_written,
    List.flatMap_map]
  simp only [hnode]

theorem findings_written (hc : c.findings catalogue = []) (hneat : c.written.Neat)
    (hworkers : Validation.checkWorkers c.written catalogue = []) :
    c.written.findings catalogue = [] := by
  obtain ⟨hchecks, -, hmovement⟩ := findings_eq_nil_iff.mp hc
  exact findings_eq_nil_iff.mpr ⟨c.like_written.checks hneat hchecks, hworkers,
    (checkMovement_written c).trans hmovement⟩

end Canvas

end Workflow
