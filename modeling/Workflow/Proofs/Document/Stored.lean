import Workflow.Canvas.Document
import Workflow.Plan.Compile
import Workflow.Plan.Document
import Workflow.Proofs.Document.Restored
import Workflow.Proofs.Engine.Evaluate
import Workflow.Proofs.Json.Distinct

/-! Canvases and plans are read back from their stored form as they were, with whatever was given
and nothing else given. -/

namespace Workflow

variable {b : Bool}

instance : Named.Lawful ValueType := ⟨fun a => by cases a <;> decide⟩

instance : Named.Lawful Completion := ⟨fun a => by cases a <;> decide⟩

instance : Named.Lawful EntityType := ⟨fun a => by cases a <;> decide⟩

instance : Named.Lawful NodeKind := ⟨fun a => by cases a <;> decide⟩

namespace Reader

variable {α : Type} {read : Reader α} {view : α → View}

lemma nullable_restores_id {a : Option α} (hs : Strict read)
    (h : ∀ x ∈ a, Restores read b view id x) : Restores (nullable read) b (.nullable view) id a :=
  Option.map_id (α := α) ▸ nullable_restores hs h

lemma list_restores_id {xs : List α} (h : ∀ x ∈ xs, Restores read b view id x) :
    Restores (list read) b (.listOf view) id xs :=
  List.map_id_fun (α := α) ▸ list_restores h

lemma mapping_restores_id {m : Keyed α} (h : ∀ e ∈ m, Restores read b view id e.2) :
    Restores (mapping read) b (.mappingOf view) id m := by
  have hm := mapping_restores h
  rwa [Restores, mapValues_eq_self.mpr fun _ _ => rfl] at hm

lemma nullable_text_restores (s : Option String) : Restores (nullable text) b .text? id s :=
  nullable_restores_id text_strict fun s _ => text_restores s

lemma texts_restore (xs : List String) : Restores (list text) b (.listOf .text) id xs :=
  list_restores_id fun s _ => text_restores s

lemma mapping_of_texts_restores (m : Mapping) :
    Restores (mapping text) b (.mappingOf .text) id m :=
  mapping_restores_id fun e _ => text_restores e.2

lemma default_restores (d : DefaultValue) : Restores (fun x => DefaultValue.json <$> any x) b
    (fun d => .untyped d.value) (fun d => .json d.value.written) d := rfl

end Reader

open Reader

section Closed

lemma InputSchema.restored (s : InputSchema) :
    Restores InputSchema.read b InputSchema.view InputSchema.written s := by
  have h : s.view.Fits b := .of_closed rfl
    (by simp [InputSchema.view, View.fields, View.fieldOf, FieldName.Apart, FieldName.plain])
  change InputSchema.read (.obj (s.view.members b)) = .ok s.written
  simp only [InputSchema.read, record]
  rw [h.given 0 rfl fun t _ => literal_restores t, h.given 1 rfl fun r _ => boolean_restores r,
    h.given 2 rfl fun d _ => nullable_text_restores d, h.given_kept 3 rfl fun x _ => default_restores x]
  rfl

lemma OutputSchema.restored (s : OutputSchema) :
    Restores OutputSchema.read b OutputSchema.view id s := by
  have h : s.view.Fits b := .of_closed rfl
    (by simp [OutputSchema.view, View.fields, View.fieldOf, FieldName.Apart, FieldName.plain])
  change OutputSchema.read (.obj (s.view.members b)) = .ok s
  simp only [OutputSchema.read, record]
  rw [h.given 0 rfl fun t _ => literal_restores t,
    h.given 1 rfl fun d _ => nullable_text_restores d]
  rfl

lemma MovementAction.restored (a : MovementAction) :
    Restores MovementAction.read b MovementAction.view id a := by
  have h : a.view.Fits b := .of_closed rfl
    (by simp [MovementAction.view, View.fields, View.field, View.fieldOf, FieldName.Apart,
      targetField, completeField, entityTypeField])
  have hentity : ∀ t ∈ a.setEntityType?,
      Restores (nullable (literal EntityType)) b (.nullable .named) id t :=
    fun t _ => nullable_restores_id literal_strict fun e _ => literal_restores e
  change MovementAction.read (.obj (a.view.members b)) = .ok a
  simp only [MovementAction.read, record]
  rw [h.required 0 rfl (text_restores _), h.required 1 rfl (literal_restores _),
    h.given 2 rfl hentity]
  rfl

lemma Movements.restored (m : Movements) : Restores Movements.read b Movements.view id m := by
  have h : m.view.Fits b := .of_closed rfl
    (by simp [Movements.view, View.fields, View.fieldOf, FieldName.Apart, successField,
      failureField])
  have haction : ∀ a,
      Restores (nullable MovementAction.read) b (.nullable MovementAction.view) id a :=
    fun a => nullable_restores_id record_strict fun a _ => a.restored
  change Movements.read (.obj (m.view.members b)) = .ok m
  simp only [Movements.read, record]
  rw [h.given 0 rfl fun a _ => haction a, h.given 1 rfl fun a _ => haction a]
  rfl

lemma inputs_restored (m : Option (Keyed InputSchema)) : Restores
    (nullable (mapping InputSchema.read)) b (.nullable (.mappingOf InputSchema.view))
    (Option.map (Keyed.mapValues InputSchema.written)) m :=
  nullable_restores mapping_strict fun _ _ => mapping_restores fun e _ => e.2.restored

lemma outputs_restored (m : Option (Keyed OutputSchema)) : Restores
    (nullable (mapping OutputSchema.read)) b (.nullable (.mappingOf OutputSchema.view)) id m :=
  nullable_restores_id mapping_strict fun _ _ => mapping_restores_id fun e _ => e.2.restored

lemma movements_restored (m : Option Movements) :
    Restores (nullable Movements.read) b (.nullable Movements.view) id m :=
  nullable_restores_id record_strict fun m _ => m.restored

lemma PlanNode.restored (n : PlanNode) :
    Restores PlanNode.read b PlanNode.view PlanNode.written n := by
  have h : n.view.Fits b := .of_closed rfl
    (by simp [PlanNode.view, View.fields, View.field, View.fieldOf, FieldName.Apart,
      FieldName.plain])
  change PlanNode.read (.obj (n.view.members b)) = .ok n.written
  simp only [PlanNode.read, record]
  rw [h.required 0 rfl (text_restores _), h.required 1 rfl (enumerated_restores _),
    h.given 2 rfl fun t _ => nullable_text_restores t,
    h.given_kept 3 rfl fun c _ => object_restores c,
    h.given_kept 4 rfl fun m _ => inputs_restored m, h.given 5 rfl fun m _ => outputs_restored m,
    h.given 6 rfl fun m _ => movements_restored m]
  rfl

lemma Plan.restored (p : Plan) : Restores Plan.read b Plan.view Plan.written p := by
  have h : p.view.Fits b := .of_closed rfl
    (by simp [Plan.view, View.fields, View.field, View.fieldOf, FieldName.Apart, FieldName.plain])
  have hnodes : Restores (mapping PlanNode.read) b (.mappingOf PlanNode.view)
      (Keyed.mapValues PlanNode.written) p.nodes :=
    mapping_restores fun e _ => e.2.restored
  have hadjacency : Restores (mapping (list text)) b (.mappingOf (.listOf .text)) id
      p.adjacency :=
    mapping_restores_id fun e _ => texts_restore e.2
  have hdata : ∀ m ∈ p.edgeData?,
      Restores (mapping (mapping text)) b (.mappingOf (.mappingOf .text)) id m :=
    fun m _ => mapping_restores_id fun e _ => mapping_of_texts_restores e.2
  change Plan.read (.obj (p.view.members b)) = .ok p.written
  simp only [Plan.read, record]
  rw [h.required 0 rfl hnodes, h.required 1 rfl hadjacency, h.given 2 rfl hdata,
    h.given 3 rfl fun ids _ => texts_restore ids, h.given 4 rfl fun ids _ => texts_restore ids]
  rfl

lemma Position.restored (p : Position) :
    Restores Position.read b Position.view Position.written p := by
  have h : p.view.Fits b := .of_closed rfl
    (by simp [Position.view, View.fields, View.fieldOf, FieldName.Apart, FieldName.plain])
  change Position.read (.obj (p.view.members b)) = .ok p.written
  simp only [Position.read, record]
  rw [h.given_kept 0 rfl fun x _ => number_restores x,
    h.given_kept 1 rfl fun y _ => number_restores y]
  rfl

end Closed

section Open

lemma nullable_object_restores (m : Option (Keyed Json)) :
    Restores (nullable object) b (.nullable .object) (Option.map Json.writtenMembers) m :=
  nullable_restores mapping_strict fun m _ => object_restores m

lemma nullable_number_restores (x : Option Floating) :
    Restores (nullable number) b (.nullable .number) (Option.map Floating.written) x :=
  nullable_restores number_strict fun x _ => number_restores x

variable {x : Json} {d : NodeData} {n : CanvasNode} {e : CanvasEdge} {c : Canvas}

lemma NodeData.fields_eq : d.view.fields.map Prod.fst = fields := rfl

lemma NodeData.restored (h : d.view.Fits true) :
    Restores NodeData.read true NodeData.view NodeData.written d := by
  change NodeData.read (.obj (d.view.members true)) = .ok d.written
  simp only [NodeData.read, record]
  rw [h.given 0 rfl fun t _ => nullable_text_restores t,
    h.given 1 rfl fun t _ => nullable_text_restores t,
    h.given_kept 2 rfl fun c _ => object_restores c,
    h.given_kept 3 rfl fun m _ => inputs_restored m, h.given 4 rfl fun m _ => outputs_restored m,
    h.given 5 rfl fun m _ => movements_restored m, ← NodeData.fields_eq (d := d), h.extras_eq rfl]
  rfl

lemma NodeData.fields_apart : fields.Pairwise FieldName.Apart := by decide

lemma NodeData.fits_of_read (hx : x.distinct = true) (h : NodeData.read x = .ok d) :
    d.view.Fits true := by
  obtain ⟨ms, rfl, hms⟩ := record_eq_ok h
  simp only [Checked.seq_eq_ok, Checked.map_eq_ok, Checked.pure_eq, Checked.ok.injEq] at hms
  obtain ⟨_, _, ⟨_, movements, ⟨_, outputs, ⟨_, inputs, ⟨_, config, ⟨_, workerType,
    ⟨label, hlabel, rfl⟩, hworker, rfl⟩, hconfig, rfl⟩, hinputs, rfl⟩, houtputs, rfl⟩, hmovements,
    rfl⟩, rfl, rfl⟩ := hms
  refine .of_read (Json.distinct_obj.mp hx).1 fields_apart rfl ?_
  simp only [view, View.fields, List.forall_mem_cons]
  exact ⟨find?_of_given hlabel, find?_of_given hworker, find?_of_given hconfig,
    find?_of_given hinputs, find?_of_given houtputs, find?_of_given hmovements, nofun⟩

lemma readId_restores {s : String} (h : s.isEmpty = false) :
    Restores CanvasNode.readId true .text id s := by
  simp [Restores, CanvasNode.readId, View.text, View.stored, text, Checked.andThen, h]

structure CanvasNode.Kept (n : CanvasNode) : Prop where
  id_ne : n.id.isEmpty = false
  fits : n.view.Fits true
  data : ∀ d ∈ n.data?, d.view.Fits true

lemma CanvasNode.fields_eq : n.view.fields.map Prod.fst = fields := rfl

lemma CanvasNode.fields_apart : fields.Pairwise FieldName.Apart := by decide

lemma CanvasNode.isEmpty_of_readId {s : String} (h : readId x = .ok s) : s.isEmpty = false := by
  cases x with
  | str t =>
    simp only [readId, text, Checked.andThen] at h
    split at h
    · cases h
    · rename_i ht
      cases h
      simpa using ht
  | _ => cases h

lemma CanvasNode.restored (h : n.Kept) :
    Restores CanvasNode.read true CanvasNode.view CanvasNode.written n := by
  change CanvasNode.read (.obj (n.view.members true)) = .ok n.written
  simp only [CanvasNode.read, record]
  rw [h.fits.required 0 rfl (readId_restores h.id_ne), h.fits.required 1 rfl (enumerated_restores _),
    h.fits.given_kept 2 rfl fun p _ => p.restored,
    h.fits.given_kept 3 rfl fun d hd => NodeData.restored (h.data d hd),
    h.fits.given_kept 4 rfl fun m _ => nullable_object_restores m,
    h.fits.given_kept 5 rfl fun x _ => nullable_number_restores x,
    h.fits.given_kept 6 rfl fun x _ => nullable_number_restores x,
    h.fits.given 7 rfl fun t _ => nullable_text_restores t, ← CanvasNode.fields_eq (n := n),
    h.fits.extras_eq rfl]
  rfl

lemma CanvasNode.kept_of_read (hx : x.distinct = true) (h : CanvasNode.read x = .ok n) :
    n.Kept := by
  obtain ⟨ms, rfl, hms⟩ := record_eq_ok h
  simp only [Checked.seq_eq_ok, Checked.map_eq_ok, Checked.pure_eq, Checked.ok.injEq] at hms
  obtain ⟨_, _, ⟨_, parent, ⟨_, height, ⟨_, width, ⟨_, style, ⟨_, data, ⟨_, position, ⟨_, kind,
    ⟨id, hid, rfl⟩, hkind, rfl⟩, hposition, rfl⟩, hdata, rfl⟩, hstyle, rfl⟩, hwidth, rfl⟩, hheight,
    rfl⟩, hparent, rfl⟩, rfl, rfl⟩ := hms
  obtain ⟨hnodup, hmembers⟩ := Json.distinct_obj.mp hx
  refine ⟨?_, .of_read hnodup fields_apart rfl ?_, ?_⟩
  · obtain ⟨_, _, hread⟩ := exists_of_required hid
    exact isEmpty_of_readId hread
  · simp only [view, View.fields, List.forall_mem_cons]
    exact ⟨nofun, nofun, find?_of_given hposition, find?_of_given hdata, find?_of_given hstyle,
      find?_of_given hwidth, find?_of_given hheight, find?_of_given hparent, nofun⟩
  · rintro d rfl
    obtain ⟨e, he, hread⟩ := exists_of_given hdata
    exact NodeData.fits_of_read (hmembers e he) hread

lemma EdgeData.restored {d : EdgeData} (h : d.view.Fits true) :
    Restores EdgeData.read true EdgeData.view EdgeData.written d := by
  have hmapping : ∀ m ∈ d.mapping?, Restores (nullable (mapping text)) true
      (.nullable (.mappingOf .text)) id m :=
    fun _ _ => nullable_restores_id mapping_strict fun m _ => mapping_of_texts_restores m
  change EdgeData.read (.obj (d.view.members true)) = .ok d.written
  simp only [EdgeData.read, record]
  rw [h.given 0 rfl hmapping, show [.plain "mapping"] = d.view.fields.map Prod.fst from rfl,
    h.extras_eq rfl]
  rfl

lemma EdgeData.fits_of_read {d : EdgeData} (hx : x.distinct = true)
    (h : EdgeData.read x = .ok d) : d.view.Fits true := by
  obtain ⟨ms, rfl, hms⟩ := record_eq_ok h
  simp only [Checked.seq_eq_ok, Checked.map_eq_ok, Checked.pure_eq, Checked.ok.injEq] at hms
  obtain ⟨_, _, ⟨mapping, hmapping, rfl⟩, rfl, rfl⟩ := hms
  refine .of_read (Json.distinct_obj.mp hx).1 (List.pairwise_singleton _ _) rfl ?_
  simp only [view, View.fields, List.forall_mem_cons]
  exact ⟨find?_of_given hmapping, nofun⟩

structure CanvasEdge.Kept (e : CanvasEdge) : Prop where
  fits : e.view.Fits true
  data : ∀ d, e.data? = some (some d) → d.view.Fits true

lemma CanvasEdge.fields_eq : e.view.fields.map Prod.fst = fields := rfl

lemma CanvasEdge.fields_apart : fields.Pairwise FieldName.Apart := by decide

lemma CanvasEdge.restored (h : e.Kept) :
    Restores CanvasEdge.read true CanvasEdge.view CanvasEdge.written e := by
  have hdata : ∀ d ∈ e.data?, Restores (nullable EdgeData.read) true (.nullable EdgeData.view)
      (Option.map EdgeData.written) d := by
    rintro d hd
    refine nullable_restores record_strict fun d' hd' => ?_
    obtain rfl := hd'
    exact EdgeData.restored (h.data _ hd)
  change CanvasEdge.read (.obj (e.view.members true)) = .ok e.written
  simp only [CanvasEdge.read, record]
  rw [h.fits.required 0 rfl (text_restores _), h.fits.required 1 rfl (text_restores _),
    h.fits.required 2 rfl (text_restores _), h.fits.given_kept 3 rfl hdata,
    ← CanvasEdge.fields_eq (e := e), h.fits.extras_eq rfl]
  rfl

lemma CanvasEdge.kept_of_read (hx : x.distinct = true) (h : CanvasEdge.read x = .ok e) :
    e.Kept := by
  obtain ⟨ms, rfl, hms⟩ := record_eq_ok h
  simp only [Checked.seq_eq_ok, Checked.map_eq_ok, Checked.pure_eq, Checked.ok.injEq] at hms
  obtain ⟨_, _, ⟨_, data, ⟨_, target, ⟨_, source, ⟨id, hid, rfl⟩, hsource, rfl⟩, htarget, rfl⟩,
    hdata, rfl⟩, rfl, rfl⟩ := hms
  obtain ⟨hnodup, hmembers⟩ := Json.distinct_obj.mp hx
  refine ⟨.of_read hnodup fields_apart rfl ?_, ?_⟩
  · simp only [view, View.fields, List.forall_mem_cons]
    exact ⟨nofun, nofun, nofun, find?_of_given hdata, nofun⟩
  · rintro d rfl
    obtain ⟨e, he, hread⟩ := exists_of_given hdata
    exact EdgeData.fits_of_read (hmembers e he) (nullable_eq_ok hread)

lemma exists_of_given_list {α : Type} {read : Reader α} {ms : Keyed Json} {f : FieldName}
    {as : Option (List α)} (hms : ∀ e ∈ ms, e.2.distinct = true)
    (h : given ms f (list read) = .ok as) :
    ∀ a ∈ as.getD [], ∃ x, x.distinct = true ∧ read x = .ok a := by
  cases as with
  | none => simp
  | some as =>
    intro a ha
    obtain ⟨⟨k, y⟩, hmem, hread⟩ := exists_of_given h
    obtain ⟨xs, rfl, hitems⟩ := list_eq_ok hread
    obtain ⟨x, hx, hread⟩ := itemsFrom_eq_ok hitems a ha
    exact ⟨x, Json.distinct_arr.mp (hms _ hmem) x hx, hread⟩

lemma Canvas.restored (hn : ∀ n ∈ c.nodes, n.Kept) (he : ∀ e ∈ c.edges, e.Kept) :
    Restores Canvas.read true Canvas.view Canvas.written c := by
  have h : c.view.Fits true := .of_closed rfl
    (by simp [Canvas.view, View.fields, View.fieldOf, FieldName.Apart, FieldName.plain])
  have hnodes : ∀ ns ∈ c.nodes?,
      Restores (list CanvasNode.read) true (.listOf CanvasNode.view)
        (List.map CanvasNode.written) ns := by
    intro ns hns
    refine list_restores fun n hmem => CanvasNode.restored (hn n ?_)
    rwa [Canvas.nodes, hns]
  have hedges : ∀ es ∈ c.edges?,
      Restores (list CanvasEdge.read) true (.listOf CanvasEdge.view)
        (List.map CanvasEdge.written) es := by
    intro es hes
    refine list_restores fun e hmem => CanvasEdge.restored (he e ?_)
    rwa [Canvas.edges, hes]
  change Canvas.read (.obj (c.view.members true)) = .ok c.written
  simp only [Canvas.read, record]
  rw [h.given_kept 0 rfl hnodes, h.given_kept 1 rfl hedges]
  rfl

lemma Canvas.kept_of_read (hx : x.distinct = true) (h : Canvas.read x = .ok c) :
    (∀ n ∈ c.nodes, n.Kept) ∧ ∀ e ∈ c.edges, e.Kept := by
  obtain ⟨ms, rfl, hms⟩ := record_eq_ok h
  simp only [Checked.seq_eq_ok, Checked.map_eq_ok] at hms
  obtain ⟨_, edges, ⟨nodes, hnodes, rfl⟩, hedges, rfl⟩ := hms
  obtain ⟨_, hmembers⟩ := Json.distinct_obj.mp hx
  constructor
  · intro n hn
    obtain ⟨y, hy, hread⟩ := exists_of_given_list hmembers hnodes n hn
    exact CanvasNode.kept_of_read hy hread
  · intro e he
    obtain ⟨y, hy, hread⟩ := exists_of_given_list hmembers hedges e he
    exact CanvasEdge.kept_of_read hy hread

end Open

end Workflow
