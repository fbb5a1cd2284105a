import Workflow.Proofs.Plan.Written

/-! Canvases that are taken for the same compile alike if, and only if, they agree on what the
comparison leaves out: which defaults are declared, the kinds of numbers at every depth, and
movements that a further member is written over. -/

namespace Workflow

/-! Plans but for the order of members -/

def DefaultValue.Same : DefaultValue → DefaultValue → Prop
  | .json x, .json y => x.Same y
  | _, _ => False

structure InputSchema.Same (s t : InputSchema) : Prop where
  type : s.type?.getD .text = t.type?.getD .text
  required : s.isRequired = t.isRequired
  description : s.description?.join = t.description?.join
  default : Option.Rel DefaultValue.Same s.default? t.default?

structure PlanNode.Same (m n : PlanNode) : Prop where
  id : m.id = n.id
  kind : m.kind = n.kind
  workerType : m.workerType = n.workerType
  config : Keyed.Same Json.Same m.config n.config
  inputs : Option.Rel (Keyed.Same InputSchema.Same) m.inputs?.join n.inputs?.join
  outputs : Option.Rel (Keyed.Same OutputSchema.Same) m.outputs?.join n.outputs?.join
  movements : Option.Rel Movements.Same m.movements n.movements

structure Plan.Same (p q : Plan) : Prop where
  nodes : Keyed.Same PlanNode.Same p.nodes q.nodes
  children : Keyed.Same Eq p.adjacency q.adjacency
  mappings : Keyed.Same (Keyed.Same Eq) p.edgeData q.edgeData
  entryNodes : p.entryNodes = q.entryNodes
  terminalNodes : p.terminalNodes = q.terminalNodes

/-! Canvases but for what the comparison leaves out -/

/-- A default is declared in both, of one kind at every depth, or in none. -/
def InputSchema.Agrees (s t : InputSchema) : Prop :=
  Option.Rel (fun x y => x.value.SameKinds y.value) s.default? t.default?

structure NodeData.Agrees (d e : NodeData) : Prop where
  config : Json.SameKinds (.obj d.config) (.obj e.config)
  inputs : ∀ m ∈ d.inputs, ∀ n ∈ e.inputs, ∀ (k : String) (s t : InputSchema),
    Keyed.find? m k = some s → Keyed.find? n k = some t → s.Agrees t
  movements : d.HidesMovements ∨ e.HidesMovements →
    Option.Rel Movements.Same d.movements e.movements

structure CanvasNode.Agrees (sections : List String) (n m : CanvasNode) : Prop where
  data : n.isExecutable = true → n.data.Agrees m.data
  movements : n.data.HidesMovements ∨ m.data.HidesMovements →
    Validation.checkNodeMovement sections m = []

/-- The nodes agree one by one, and hidden movements lead to sections. -/
def Canvas.Agrees (c d : Canvas) : Prop :=
  List.Forall₂ (CanvasNode.Agrees (Validation.sections d)) c.nodes d.nodes

variable {catalogue : Catalogue} {c d : Canvas} {n m : CanvasNode}

lemma NodeData.Agrees.refl (d : NodeData) : d.Agrees d where
  config := .refl _
  inputs := by
    rintro m hm n hn k s t hs ht
    obtain rfl := Option.some.inj (hm.symm.trans hn)
    obtain rfl := Option.some.inj (hs.symm.trans ht)
    exact rel_refl (fun x => .refl x.value) _
  movements _ := rel_refl Movements.Same.refl _

lemma Canvas.agrees_self (h : Validation.checkMovement c = []) : c.Agrees c := by
  rw [Validation.checkMovement, List.flatMap_eq_nil_iff] at h
  exact List.forall₂_same.mpr fun n hn => ⟨fun _ => .refl _, fun _ => h n hn⟩

/-! The checks -/

lemma CanvasNode.Match.like (h : n.Match m)
    (ha : n.isExecutable = true → n.data.Agrees m.data) : n.Like m where
  id := h.id
  kind := h.kind
  workerType := h.data.workerType
  inputs := by
    have hinputs := h.data.inputs
    have hagrees : n.isExecutable = true → _ := fun hx => (ha hx).inputs
    generalize n.data.inputs = a, m.data.inputs = b at hinputs hagrees
    cases hinputs with
    | none => exact .none
    | @some ms ns hs =>
      refine .some fun k => ?_
      have hk := hs k
      have hfind : n.isExecutable = true → ∀ s t, Keyed.find? ms k = some s →
          Keyed.find? ns k = some t → s.Agrees t := fun hx => hagrees hx ms rfl ns rfl k
      generalize Keyed.find? ms k = s, Keyed.find? ns k = t at hk hfind
      cases hk with
      | none => exact .none
      | some hm => exact .some ⟨hm.required, fun hx => rel_isSome (hfind hx _ _ rfl rfl)⟩
  outputs := rel_imp h.data.outputs fun _ _ hs k => rel_imp (hs k) fun _ _ _ => trivial

lemma CanvasEdge.Match.like {e e' : CanvasEdge} (h : e.Match e') : e.Like e' :=
  ⟨h.source, h.target, h.mapping⟩

namespace Canvas.Match

variable (h : c.Match d)
include h

lemma like (ha : c.Agrees d) : c.Like d where
  nodes := List.Forall₂.mp (fun _ _ hm hag => hm.like hag.data) h.nodes ha
  edges := h.edges.imp fun _ _ he => he.like

lemma sections : Validation.sections c = Validation.sections d :=
  map_eq_of_forall₂ (forall₂_filter h.nodes fun n m hm => by rw [hm.kind]) fun _ _ hm => hm.id

end Canvas.Match

lemma checkAction_same {sections : List String} {id id' outcome outcome' : String}
    {a b : Option MovementAction} (hab : Option.Rel MovementAction.Same a b)
    (h : Validation.checkAction sections id outcome a = []) :
    Validation.checkAction sections id' outcome' b = [] := by
  cases hab with
  | none => rfl
  | some hs => simpa [Validation.checkAction, hs.target] using h

lemma checkNodeMovement_same {sections : List String}
    (hs : Option.Rel Movements.Same n.data.movements m.data.movements)
    (h : Validation.checkNodeMovement sections n = []) :
    Validation.checkNodeMovement sections m = [] := by
  rw [Validation.checkNodeMovement] at h ⊢
  generalize n.data.movements = a, m.data.movements = b at hs h
  cases hs with
  | none => rfl
  | some hs =>
    obtain ⟨hsuccess, hfailure⟩ := List.append_eq_nil_iff.mp h
    exact List.append_eq_nil_iff.mpr
      ⟨checkAction_same hs.onSuccess hsuccess, checkAction_same hs.onFailure hfailure⟩

lemma Canvas.Match.checkMovement (h : c.Match d) (ha : c.Agrees d)
    (hc : Validation.checkMovement c = []) : Validation.checkMovement d = [] := by
  rw [Validation.checkMovement, List.flatMap_eq_nil_iff] at hc ⊢
  intro m hm
  obtain ⟨n, hn, hmatch, hagrees⟩ :=
    exists_of_forall₂ (List.Forall₂.mp (fun _ _ => And.intro) h.nodes ha) hm
  have hnode := hc n hn
  rw [h.sections] at hnode
  by_cases hhides : n.data.HidesMovements ∨ m.data.HidesMovements
  · exact hagrees.movements hhides
  · obtain ⟨hn', hm'⟩ := not_or.mp hhides
    exact checkNodeMovement_same (hmatch.data.movements hn' hm') hnode

section Address

variable (h : n.data.Match m.data) (hn : n.data.Neat)
include h hn

lemma NodeData.Match.config_same : Keyed.Same Json.Matches (Json.writtenMembers n.data.config)
    (Json.writtenMembers m.data.config) :=
  Json.same_of_matches (Json.keys_writtenMembers.symm ▸ (Json.distinct_obj.mp hn.config).1) h.config

lemma NodeData.Match.address_written :
    ((Keyed.find? n.data.config "webhook_url").getD .null).written.isFalsy =
      ((Keyed.find? m.data.config "webhook_url").getD .null).written.isFalsy := by
  have hk := h.config_same hn "webhook_url"
  rw [Json.writtenMembers_eq, Json.writtenMembers_eq, Keyed.find?_mapValues,
    Keyed.find?_mapValues] at hk
  generalize Keyed.find? n.data.config "webhook_url" = a,
    Keyed.find? m.data.config "webhook_url" = b at hk ⊢
  cases a with
  | none =>
    cases b with
    | none => rfl
    | some y => cases hk
  | some x =>
    cases b with
    | none => cases hk
    | some y => exact Json.isFalsy_eq_of_matches (Option.rel_some_some.mp hk)

omit h hn in
lemma Json.isFalsy_written {x : Json} (h : x.isFalsy = true) : x.written.isFalsy = true := by
  cases x with
  | float x =>
    rw [Json.written]
    split
    · exact h
    · rfl
  | arr xs => cases xs <;> first | rfl | cases h
  | obj ms => cases ms <;> first | rfl | cases h
  | _ => exact h

omit h hn in
lemma written_address (hf : Json.finiteMembers n.data.config = true) :
    ((Keyed.find? n.data.config "webhook_url").getD .null).written =
      (Keyed.find? n.data.config "webhook_url").getD .null := by
  rw [Json.written_eq_self_iff]
  cases hk : Keyed.find? n.data.config "webhook_url" with
  | none => rfl
  | some x => exact Json.numbersMembers_iff.mp hf _ (Keyed.mem_of_find? hk)

lemma NodeData.Match.hasAddress (hf : Json.finiteMembers n.data.config = true)
    (ha : Validation.hasAddress n = true) : Validation.hasAddress m = true := by
  rw [Validation.hasAddress, Bool.not_eq_true', ← written_address hf, h.address_written hn] at ha
  rw [Validation.hasAddress, Bool.not_eq_true', Bool.eq_false_iff]
  intro hfalsy
  rw [Json.isFalsy_written hfalsy] at ha
  cases ha

lemma NodeData.Match.hasAddress_left (hf : Json.finiteMembers m.data.config = true)
    (ha : Validation.hasAddress m = true) : Validation.hasAddress n = true := by
  rw [Validation.hasAddress, Bool.not_eq_true', ← written_address hf, ← h.address_written hn] at ha
  rw [Validation.hasAddress, Bool.not_eq_true', Bool.eq_false_iff]
  intro hfalsy
  rw [Json.isFalsy_written hfalsy] at ha
  cases ha

end Address

lemma checkWorker_eq_nil_iff : Validation.checkWorker catalogue n = [] ↔
    (n.kind = .worker → if n.data.workerType.getD "" = "" then Validation.hasAddress n = true
      else Keyed.has catalogue (n.data.workerType.getD "") = true) := by
  rw [Validation.checkWorker]
  by_cases hk : n.kind = .worker
  · rw [if_neg (not_not_intro hk)]
    split
    · rename_i htype
      simp [hk, htype]
    · rename_i htype hne
      rw [if_neg hne]
      simp [hk]
  · simp [hk]

lemma checkWorker_of (hk : n.kind = m.kind) (ht : n.data.workerType = m.data.workerType)
    (ha : m.kind = .worker → Validation.hasAddress n = true → Validation.hasAddress m = true)
    (hn : Validation.checkWorker catalogue n = []) : Validation.checkWorker catalogue m = [] := by
  rw [checkWorker_eq_nil_iff] at hn ⊢
  rw [← hk, ← ht]
  intro hworker
  have hwhere := hn hworker
  split at hwhere
  · rename_i htype
    rw [if_pos htype]
    exact ha (hk ▸ hworker) hwhere
  · rename_i htype
    rw [if_neg htype]
    exact hwhere

/-! The plans -/

namespace InputSchema

variable {s t : InputSchema}

lemma Durable.same_self (h : s.Durable) : s.Same s := by
  refine ⟨rfl, rfl, rfl, ?_⟩
  cases hd : s.default? with
  | none => exact .none
  | some d =>
    obtain ⟨x, rfl, -⟩ := h d hd
    exact .some (.refl x)

lemma Match.same (h : s.Match t) (ha : s.Agrees t) (hs : s.Durable) (ht : t.Durable)
    (hdistinct : ∀ x ∈ s.default?, x.value.distinct = true) : s.Same t := by
  refine ⟨h.type, h.required, h.description, ?_⟩
  have hdefault := h.default
  rw [Agrees] at ha
  rw [defaultView, defaultView] at hdefault
  rw [Durable] at hs ht
  generalize s.default? = a, t.default? = b at ha hs ht hdistinct hdefault
  cases ha with
  | none => exact .none
  | some hkinds =>
    obtain ⟨x, rfl, hx⟩ := hs _ rfl
    obtain ⟨y, rfl, hy⟩ := ht _ rfl
    refine .some ?_
    change x.SameKinds y at hkinds
    change View.FieldMatched (.untyped x) (.untyped y) at hdefault
    by_cases hnull : x.isNull = true
    · obtain rfl := Json.isNull_iff.mp hnull
      cases hkinds
      exact .refl _
    · have hxn : (View.untyped x).isNull = false := by simpa [View.isNull_untyped] using hnull
      have hyn : (View.untyped y).isNull = false := by
        rw [View.isNull_untyped, ← hkinds.isNull_eq, ← View.isNull_untyped, hxn]
      have hmatched := hdefault.matched hxn hyn
      rw [View.canonical, View.canonical, (Json.written_eq_self_iff x).mpr hx,
        (Json.written_eq_self_iff y).mpr hy] at hmatched
      exact hkinds.same (hdistinct _ rfl) hmatched

end InputSchema

lemma NodeData.durable_empty : NodeData.empty.Durable := by
  refine ⟨rfl, fun m hm => ?_, rfl⟩
  cases hm

lemma NodeData.Durable.of_node (h : n.Durable) : n.data.Durable := by
  rw [CanvasNode.data]
  cases hd : n.data? with
  | none => exact NodeData.durable_empty
  | some d => exact h.data d hd

section Node

lemma rel_map_left {α β : Type} {R : β → β → Prop} {f : α → β} {a : Option α} {b : Option β}
    (h : Option.Rel (fun x y => R (f x) y) a b) : Option.Rel R (a.map f) b := by
  cases h with
  | none => exact .none
  | some h => exact .some h

lemma PlanNode.inputs_ofCanvas {l : Keyed InputSchema} (h : m.declaredInputs catalogue = some l) :
    (PlanNode.ofCanvas catalogue m).inputs = l := by
  rw [inputs, ofCanvas, h]
  rfl

variable (h : n.Match m) (hn : n.data.Neat) (hd : n.data.Durable)
include h hn hd

lemma CanvasNode.Match.inputs_same (ha : n.data.Agrees m.data)
    (hp : (PlanNode.ofCanvas catalogue m).Durable) :
    Option.Rel (Keyed.Same InputSchema.Same)
      ((n.declaredInputs catalogue).map (Keyed.mapValues InputSchema.written))
      (m.declaredInputs catalogue) := by
  have hdeclared : ∀ l ∈ m.declaredInputs catalogue, ∀ e ∈ l, e.2.Durable := fun l hl e he =>
    hp.inputs e (PlanNode.inputs_ofCanvas hl ▸ he)
  have hinputs := h.data.inputs
  have hagrees := ha.inputs
  have hneat := hn.inputs
  have hdurable := hd.inputs
  have hdefinition := (h.like fun _ => ha).workerDefinition? catalogue
  refine rel_map_left ?_
  rw [CanvasNode.declaredInputs] at hdeclared ⊢
  rw [CanvasNode.declaredInputs, hdefinition]
  generalize n.data.inputs = a, m.data.inputs = b at hinputs hagrees hneat hdurable hdeclared ⊢
  cases hinputs with
  | none =>
    change ∀ l ∈ (m.workerDefinition? catalogue).map (·.input), _ at hdeclared
    change Option.Rel _ ((m.workerDefinition? catalogue).map (·.input))
      ((m.workerDefinition? catalogue).map (·.input))
    generalize (m.workerDefinition? catalogue).map (·.input) = o at hdeclared ⊢
    cases o with
    | none => exact .none
    | some l =>
      refine .some fun k => ?_
      rw [Keyed.find?_mapValues]
      cases hk : Keyed.find? l k with
      | none => exact .none
      | some s =>
        have hs := hdeclared l rfl _ (Keyed.mem_of_find? hk)
        rw [Option.map_some, InputSchema.written_eq_self_iff.mpr hs]
        exact .some hs.same_self
  | @some ms ns hs =>
    refine .some fun k => ?_
    have hk := hs k
    have hkinds := hagrees ms rfl ns rfl k
    rw [Keyed.find?_mapValues]
    cases hs' : Keyed.find? ms k with
    | none =>
      rw [hs'] at hk
      rw [rel_none_left hk]
      exact .none
    | some s =>
      rw [hs'] at hk
      obtain ⟨t, ht, hmatch⟩ := rel_some_left hk
      rw [ht]
      have hmem := Keyed.mem_of_find? hs'
      have hdurable' := hdurable ms rfl _ hmem
      rw [Option.map_some, InputSchema.written_eq_self_iff.mpr hdurable']
      exact .some (hmatch.same (hkinds s t hs' ht) hdurable'
        (hdeclared ns rfl _ (Keyed.mem_of_find? ht)) ((hneat ms rfl).defaults _ hmem))

lemma CanvasNode.Match.config_same (ha : n.data.Agrees m.data)
    (hp : Json.finiteMembers m.data.config = true) :
    Keyed.Same Json.Same n.data.config m.data.config := by
  have hmatch := h.data.config
  rw [(Json.writtenMembers_eq_self_iff _).mpr hd.config,
    (Json.writtenMembers_eq_self_iff _).mpr hp] at hmatch
  obtain ⟨ms, hms, hsame⟩ := Json.Same.of_obj (ha.config.same hn.config hmatch)
  exact Json.obj.inj hms ▸ hsame

omit hn hd in
lemma CanvasNode.Match.outputs_same (catalogue : Catalogue) :
    Option.Rel (Keyed.Same OutputSchema.Same) (n.declaredOutputs catalogue)
      (m.declaredOutputs catalogue) := by
  have houtputs := h.data.outputs
  have hdefinition : n.workerDefinition? catalogue = m.workerDefinition? catalogue := by
    rw [CanvasNode.workerDefinition?, CanvasNode.workerDefinition?, h.kind, h.data.workerType]
  rw [CanvasNode.declaredOutputs, CanvasNode.declaredOutputs, hdefinition]
  generalize n.data.outputs = a, m.data.outputs = b at houtputs
  cases houtputs with
  | none => exact rel_refl (Keyed.Same.refl fun _ => ⟨rfl, rfl⟩) _
  | some hs => exact .some hs

lemma CanvasNode.Match.same_ofCanvas (ha : n.data.Agrees m.data)
    (hp : (PlanNode.ofCanvas catalogue m).Durable) :
    (PlanNode.ofCanvas catalogue n).written.Same (.ofCanvas catalogue m) where
  id := h.id
  kind := h.kind
  workerType := h.data.workerType
  config := by
    have hconfig := h.config_same hn hd ha hp.config
    rwa [← (Json.writtenMembers_eq_self_iff _).mpr hd.config] at hconfig
  inputs := h.inputs_same hn hd ha hp
  outputs := h.outputs_same catalogue
  movements := by
    by_cases hhides : n.data.HidesMovements ∨ m.data.HidesMovements
    · exact ha.movements hhides
    · obtain ⟨hn', hm'⟩ := not_or.mp hhides
      exact h.data.movements hn' hm'

end Node

lemma PlanNode.inputs_same {n : PlanNode} (h : n.Durable) :
    Option.Rel (Keyed.Same InputSchema.Same) n.inputs?.join n.inputs?.join := by
  have hinputs := h.inputs
  rw [inputs] at hinputs
  cases hn : n.inputs?.join with
  | none => exact .none
  | some l =>
    rw [hn] at hinputs
    refine .some fun k => ?_
    cases hk : Keyed.find? l k with
    | none => exact .none
    | some s => exact .some (hinputs _ (Keyed.mem_of_find? hk)).same_self

namespace Plan

variable {data data' : Keyed Mapping} {edges edges' : List CanvasEdge}

lemma addMapping_same {e e' : CanvasEdge} (hdata : Keyed.Same (Keyed.Same Eq) data data')
    (h : e.Like e') (he : (Keyed.keys e.mapping).Nodup) (he' : (Keyed.keys e'.mapping).Nodup) :
    Keyed.Same (Keyed.Same Eq) (addMapping data e) (addMapping data' e') := by
  have hfound := hdata (edgeKey e.source e.target)
  rw [addMapping, addMapping, ← h.source, ← h.target]
  refine hdata.set (.merge ?_ h.mapping he he') _
  generalize Keyed.find? data _ = a, Keyed.find? data' _ = b at hfound
  cases hfound with
  | none => exact fun _ => .none
  | some hs => exact hs

lemma addMappings_same (h : List.Forall₂ (fun e e' : CanvasEdge => e.Like e' ∧
      (Keyed.keys e.mapping).Nodup ∧ (Keyed.keys e'.mapping).Nodup) edges edges')
    (hdata : Keyed.Same (Keyed.Same Eq) data data') :
    Keyed.Same (Keyed.Same Eq) (edges.foldl addMapping data) (edges'.foldl addMapping data') := by
  induction h generalizing data data' with
  | nil => exact hdata
  | cons he _ ih => exact ih (addMapping_same hdata he.1 he.2.1 he.2.2)

lemma mem_nodes (hids : (c.nodes.map (·.id)).Nodup) (hn : n ∈ c.nodes)
    (hx : n.isExecutable = true) :
    (n.id, PlanNode.ofCanvas catalogue n) ∈ (ofCanvas c catalogue).nodes := by
  rw [ofCanvas, Canvas.compiledNodes_of_nodup catalogue hids]
  exact List.mem_map_of_mem (List.mem_filter.mpr ⟨hn, hx⟩)

lemma same_ofCanvas (h : c.Match d) (ha : c.Agrees d) (hc : c.Neat) (hd : d.Neat)
    (hdurable : c.Durable) (hids : (d.nodes.map (·.id)).Nodup)
    (hp : (ofCanvas d catalogue).Durable) :
    (ofCanvas c catalogue).written.Same (ofCanvas d catalogue) where
  nodes := by
    have hpairs := List.Forall₂.mp (fun _ _ => And.intro) h.nodes ha
    have hexecutables := forall₂_filter (p := CanvasNode.isExecutable) hpairs
      fun n m hnm => (hnm.1.like hnm.2.data).isExecutable
    have hnodes := forall₂_imp_mem hexecutables (Q := fun n m => n.id = m.id ∧
      (PlanNode.ofCanvas catalogue n).written.Same (.ofCanvas catalogue m)) fun n hn m hm hnm => by
        obtain ⟨hn, hx⟩ := List.mem_filter.mp hn
        obtain ⟨hm, hx'⟩ := List.mem_filter.mp hm
        exact ⟨hnm.1.id, hnm.1.same_ofCanvas (hc.nodes n hn) (.of_node (hdurable.nodes n hn))
          (hnm.2.data hx) (hp (m.id, _) (mem_nodes hids hm hx'))⟩
    intro k
    change Option.Rel _ (Keyed.find? (Keyed.mapValues PlanNode.written
      (compiledNodes c catalogue)) k) (Keyed.find? (compiledNodes d catalogue) k)
    rw [Keyed.find?_mapValues]
    exact rel_map_left (Keyed.same_ofPairs (R := fun n m : PlanNode => n.written.Same m) hnodes
      (fun _ _ hnm => hnm) k)
  children := by
    have hadjacency := (h.like ha).adjacency
    change Keyed.Same Eq (Keyed.mapValues _ _) (Keyed.mapValues _ _)
    rw [hadjacency]
    exact .refl (fun _ => rfl) _
  mappings := by
    have hedges := forall₂_imp_mem (h.like ha).executableEdges
      (Q := fun e e' => e.Like e' ∧ (Keyed.keys e.mapping).Nodup ∧ (Keyed.keys e'.mapping).Nodup)
      fun e he e' he' hlike => ⟨hlike, hc.edges e (List.mem_of_mem_filter he),
        hd.edges e' (List.mem_of_mem_filter he')⟩
    exact addMappings_same hedges fun _ => .none
  entryNodes := by
    have hids := (h.like ha).executableIds
    have htargets := map_eq_of_forall₂ (h.like ha).executableEdges fun _ _ he => he.target
    change (c.executableIds.filter fun id => !(c.executableEdges.map (·.target)).contains id) =
      d.executableIds.filter fun id => !(d.executableEdges.map (·.target)).contains id
    rw [hids, htargets]
  terminalNodes := by
    have hadjacency := (h.like ha).adjacency
    change Keyed.keys ((Keyed.mapValues List.eraseDups c.adjacency).filter fun e => e.2.isEmpty) =
      Keyed.keys ((Keyed.mapValues List.eraseDups d.adjacency).filter fun e => e.2.isEmpty)
    rw [hadjacency]

end Plan

/-! What equal plans tell -/

/-- No input of a type is declared twice, and no object in a default has two members of one name. -/
def Catalogue.Neat (catalogue : Catalogue) : Prop :=
  ∀ e ∈ catalogue, InputSchema.Distinct e.2.input

lemma InputSchema.Distinct.nil : InputSchema.Distinct [] := ⟨List.nodup_nil, List.forall_mem_nil _⟩

lemma CanvasNode.distinct_inputs (hn : n.data.Neat) (hcat : catalogue.Neat) :
    InputSchema.Distinct (PlanNode.ofCanvas catalogue n).inputs := by
  have hneat := hn.inputs
  change InputSchema.Distinct ((n.declaredInputs catalogue).getD [])
  rw [declaredInputs]
  cases hi : n.data.inputs with
  | some m => exact hneat m hi
  | none =>
    change InputSchema.Distinct (((n.workerDefinition? catalogue).map (·.input)).getD [])
    cases ht : n.workerDefinition? catalogue with
    | none => exact .nil
    | some t =>
      rw [workerDefinition?] at ht
      split at ht
      · split at ht
        · cases ht
        · exact hcat _ (Keyed.mem_of_find? ht)
      · cases ht

lemma InputSchema.durable_of_same {s t : InputSchema} (h : s.written.Same t)
    (ht : ∀ x ∈ t.default?, x.value.distinct = true) : t.Durable := by
  intro d hd
  have hdefault := h.default
  rw [hd] at hdefault
  obtain ⟨d', hd', hsame⟩ := rel_some_right hdefault
  obtain ⟨x, -, rfl⟩ := Option.map_eq_some_iff.mp hd'
  cases d with
  | json y => exact ⟨y, rfl, hsame.finite (ht _ hd) (Json.finite_written _)⟩
  | foreign y => cases hsame

lemma PlanNode.durable_of_same {a b : PlanNode} (h : a.written.Same b)
    (hconfig : (Json.obj b.config).distinct = true) (hinputs : InputSchema.Distinct b.inputs) :
    b.Durable where
  config := by
    refine (Json.same_obj h.config).finite hconfig ?_
    change Json.finiteMembers ((a.config?.map Json.writtenMembers).getD []) = true
    cases a.config? with
    | none => rfl
    | some m => exact Json.finiteMembers_written m
  inputs := by
    intro e he
    have hrel := h.inputs
    rw [inputs] at he hinputs
    cases hb : b.inputs?.join with
    | none =>
      rw [hb] at he
      cases he
    | some l =>
      rw [hb] at hrel
      rw [hb, Option.getD_some] at he hinputs
      obtain ⟨l', hl', hsame⟩ := rel_some_right hrel
      obtain ⟨o, -, ho⟩ := Option.map_eq_some_iff.mp (Option.join_eq_some_iff.mp hl')
      obtain ⟨m, -, rfl⟩ := Option.map_eq_some_iff.mp ho
      have hk := hsame e.1
      rw [Keyed.find?_mapValues, Keyed.find?_of_mem hinputs.nodup he] at hk
      obtain ⟨s', hs', hs⟩ := rel_some_right hk
      obtain ⟨s, -, rfl⟩ := Option.map_eq_some_iff.mp hs'
      exact InputSchema.durable_of_same hs (hinputs.defaults e he)

namespace Plan

variable {p : Plan} (hs : p.written.Same (ofCanvas d catalogue))
  (hids : (d.nodes.map (·.id)).Nodup)
include hids

omit hs in
lemma nodup_nodes (catalogue : Catalogue) :
    (Keyed.keys (ofCanvas d catalogue).nodes).Nodup := by
  have hkeys : Keyed.keys (ofCanvas d catalogue).nodes = d.executableIds :=
    Canvas.nodeIds_ofCanvas hids
  exact hkeys ▸ Canvas.nodup_executableIds

include hs

lemma node_same {id : String} {b : PlanNode} (hb : (id, b) ∈ (ofCanvas d catalogue).nodes) :
    ∃ a, Keyed.find? p.nodes id = some a ∧ a.written.Same b := by
  have hk := hs.nodes id
  change Option.Rel _ (Keyed.find? (Keyed.mapValues PlanNode.written p.nodes) id) _ at hk
  rw [Keyed.find?_mapValues, Keyed.find?_of_mem (nodup_nodes hids catalogue) hb] at hk
  obtain ⟨a', ha', hsame⟩ := rel_some_right hk
  obtain ⟨a, ha, rfl⟩ := Option.map_eq_some_iff.mp ha'
  exact ⟨a, ha, hsame⟩

lemma durable_of_same (hd : d.Neat) (hcat : catalogue.Neat) : (ofCanvas d catalogue).Durable := by
  rintro ⟨id, b⟩ hb
  obtain ⟨a, -, hsame⟩ := node_same hs hids hb
  obtain ⟨m, hm, -, -, rfl⟩ := Canvas.exists_of_node? hids
    (Keyed.find?_of_mem (nodup_nodes hids catalogue) hb)
  exact PlanNode.durable_of_same hsame (hd.nodes m hm).config
    (CanvasNode.distinct_inputs (hd.nodes m hm) hcat)

end Plan

lemma NodeData.agrees_of_same (hn : n.data.Durable)
    (hs : (PlanNode.ofCanvas catalogue n).written.Same (.ofCanvas catalogue m)) :
    n.data.Agrees m.data where
  config := by
    have hconfig := hs.config
    change Keyed.Same Json.Same (Json.writtenMembers n.data.config) m.data.config at hconfig
    rw [(Json.writtenMembers_eq_self_iff _).mpr hn.config] at hconfig
    exact (Json.same_obj hconfig).sameKinds
  inputs := by
    intro ms hms ns hns k s t hk hk'
    have hinputs := hs.inputs
    change Option.Rel _ ((n.declaredInputs catalogue).map (Keyed.mapValues InputSchema.written))
      (m.declaredInputs catalogue) at hinputs
    rw [CanvasNode.declaredInputs, CanvasNode.declaredInputs, hms, hns] at hinputs
    have hsame := Option.rel_some_some.mp hinputs k
    rw [Keyed.find?_mapValues, hk, hk'] at hsame
    have hst := (Option.rel_some_some.mp hsame).default
    rw [InputSchema.written_eq_self_iff.mpr (hn.inputs ms hms _ (Keyed.mem_of_find? hk))] at hst
    refine rel_imp hst fun x y hxy => ?_
    cases x with
    | json x =>
      cases y with
      | json y => exact hxy.sameKinds
      | foreign y => cases hxy
    | foreign x => cases hxy
  movements _ := hs.movements

namespace Canvas.Match

variable (h : c.Match d) (hc : c.Neat) (hdurable : c.Durable)
include h hdurable

lemma agrees_of_same (hids : (d.nodes.map (·.id)).Nodup)
    (hmovement : Validation.checkMovement d = [])
    (hs : (Plan.ofCanvas c catalogue).written.Same (.ofCanvas d catalogue)) : c.Agrees d := by
  have hids' : (c.nodes.map (·.id)).Nodup := by
    rwa [map_eq_of_forall₂ h.nodes fun _ _ hm => hm.id]
  rw [Validation.checkMovement, List.flatMap_eq_nil_iff] at hmovement
  refine forall₂_imp_mem h.nodes fun n hn m hm hmatch => ⟨fun hx => ?_, fun _ => hmovement m hm⟩
  have hx' : m.isExecutable = true := by
    rwa [CanvasNode.isExecutable, ← hmatch.kind]
  obtain ⟨a, ha, hsame⟩ := Plan.node_same hs hids (Plan.mem_nodes hids hm hx')
  rw [← hmatch.id, Keyed.find?_of_mem (Plan.nodup_nodes hids' catalogue)
    (Plan.mem_nodes hids' hn hx)] at ha
  obtain rfl := Option.some.inj ha
  exact NodeData.agrees_of_same (.of_node (hdurable.nodes n hn)) hsame

include hc

lemma checkWorkers (hworkers : Validation.checkWorkers c catalogue = []) :
    Validation.checkWorkers d catalogue = [] := by
  rw [Validation.checkWorkers, List.flatMap_eq_nil_iff] at hworkers ⊢
  intro m hm
  obtain ⟨n, hn, hmatch⟩ := exists_of_forall₂ h.nodes hm
  exact checkWorker_of hmatch.kind hmatch.data.workerType (fun _ => hmatch.data.hasAddress
    (hc.nodes n hn) (NodeData.Durable.of_node (hdurable.nodes n hn)).config) (hworkers n hn)

omit hdurable in
lemma checkWorkers_left (hids : (d.nodes.map (·.id)).Nodup)
    (hp : (Plan.ofCanvas d catalogue).Durable)
    (hworkers : Validation.checkWorkers d catalogue = []) :
    Validation.checkWorkers c catalogue = [] := by
  rw [Validation.checkWorkers, List.flatMap_eq_nil_iff] at hworkers ⊢
  intro n hn
  obtain ⟨m, hm, hmatch⟩ := exists_of_forall₂ h.nodes.flip hn
  refine checkWorker_of hmatch.kind.symm hmatch.data.workerType.symm (fun hk =>
    hmatch.data.hasAddress_left (hc.nodes n hn) ?_) (hworkers m hm)
  have hx : m.isExecutable = true := by
    rw [CanvasNode.isExecutable, ← hmatch.kind, hk]
    rfl
  exact (hp (m.id, PlanNode.ofCanvas catalogue m) (Plan.mem_nodes hids hm hx)).config

end Canvas.Match

lemma Plan.Durable.same_written {p : Plan} (h : p.Durable) : p.written.Same p where
  nodes := by
    intro k
    change Option.Rel _ (Keyed.find? (Keyed.mapValues PlanNode.written p.nodes) k) _
    rw [Keyed.find?_mapValues]
    cases hk : Keyed.find? p.nodes k with
    | none => exact .none
    | some n =>
      have hn := h _ (Keyed.mem_of_find? hk)
      refine .some ?_
      rw [PlanNode.written_eq_self_iff.mpr hn]
      exact ⟨rfl, rfl, rfl, .refl .refl _, PlanNode.inputs_same hn,
        rel_refl (Keyed.Same.refl fun _ => ⟨rfl, rfl⟩) _, rel_refl Movements.Same.refl _⟩
  children := .refl (fun _ => rfl) _
  mappings := .refl (.refl fun _ => rfl) _
  entryNodes := rfl
  terminalNodes := rfl

variable {o : Canvas}

theorem Canvas.compiles_alike_iff (ho : o.compile catalogue = .ok (.ofCanvas o catalogue))
    (hparsed : o.written.Parsed) (hd : d.Parsed) (hcat : catalogue.Neat)
    (hs : o.written.sameAs d = true) :
    (∃ p, d.compile catalogue = .ok p ∧ (Plan.ofCanvas o catalogue).written.Same p) ↔
      (Validation.checkWorkers o.written catalogue = [] ∧ o.written.Agrees d) ∧
        ∀ p, d.compile catalogue = .ok p → p.Durable := by
  have hmatch := Canvas.match_of hparsed hd hs
  have hdurable := o.durable_written
  have hnodup : ∀ {p}, d.compile catalogue = .ok p → (d.nodes.map (·.id)).Nodup := fun hp =>
    nodup_of_duplicateNodes (checks_of_findings (compile_eq_ok hp).1).1
  rw [← Plan.ofCanvas_written]
  constructor
  · rintro ⟨p, hp, hsame⟩
    have hids := hnodup hp
    obtain ⟨hfindings, rfl⟩ := compile_eq_ok hp
    obtain ⟨-, hworkers, hmovement⟩ := findings_eq_nil_iff.mp hfindings
    have hpd := Plan.durable_of_same hsame hids hd.neat hcat
    refine ⟨⟨hmatch.checkWorkers_left hparsed.neat hids hpd hworkers,
      hmatch.agrees_of_same hdurable hids hmovement hsame⟩, fun p' hp' => ?_⟩
    obtain ⟨-, rfl⟩ := compile_eq_ok hp'
    exact hpd
  · rintro ⟨⟨hworkers, hagrees⟩, hpd⟩
    have hfindings := findings_written (compile_eq_ok ho).1 hparsed.neat hworkers
    obtain ⟨hchecks, -, hmovement⟩ := findings_eq_nil_iff.mp hfindings
    have hp : d.compile catalogue = .ok (.ofCanvas d catalogue) := by
      rw [compile, findings_eq_nil_iff.mpr ⟨(hmatch.like hagrees).checks hd.neat hchecks,
        hmatch.checkWorkers hparsed.neat hdurable hworkers, hmatch.checkMovement hagrees hmovement⟩]
    exact ⟨_, hp, Plan.same_ofCanvas hmatch hagrees hparsed.neat hd.neat hdurable (hnodup hp)
      (hpd _ hp)⟩

end Workflow
