import Workflow.Proofs.Document.Reread
import Workflow.Proofs.Json.Matching

/-! Canvases with equal canonical forms match node by node and edge by edge. -/

namespace Workflow

namespace View

variable {α : Type} {view : α → View} {fs gs : List (FieldName × Bool × View)} {ms ns : Keyed Json}
  {f : FieldName} {v w : View} {g g' : Bool} {k : String}

def shown (v : View) : Option Json := if v.isNull then none else some v.canonical

structure MatchedBy (view : α → View) (a b : α) : Prop where
  left : (view a).tidy = true
  right : (view b).tidy = true
  matched : (view a).canonical.Matches (view b).canonical

structure FieldMatched (v w : View) : Prop where
  left : v.tidy = true
  right : w.tidy = true
  shown : Option.Rel Json.Matches v.shown w.shown

structure RecordMatched (fs gs : List (FieldName × Bool × View)) (ms ns : Keyed Json) : Prop where
  left : (View.record fs ms).tidy = true
  right : (View.record gs ns).tidy = true
  members : Keyed.Same Json.Matches (Keyed.merge (canonicalFields fs) (Json.writtenMembers (nonNull ms)))
    (Keyed.merge (canonicalFields gs) (Json.writtenMembers (nonNull ns)))

lemma isNull_untyped (x : Json) : (View.untyped x).isNull = x.isNull := by
  cases x <;> rfl

lemma find?_canonicalFields (hn : (fs.map fun e => e.1.name).Nodup) (h : (f, g, v) ∈ fs) :
    Keyed.find? (canonicalFields fs) f.name = v.shown := by
  induction fs with
  | nil => cases h
  | cons e fs ih =>
    obtain ⟨he, hfs⟩ := List.nodup_cons.mp hn
    rw [canonicalFields]
    rcases List.mem_cons.mp h with rfl | h
    · have hnone : Keyed.find? (canonicalFields fs) f.name = none :=
        Keyed.find?_eq_none_iff.mpr fun hk => he (keys_canonicalFields.subset hk)
      rw [shown]
      split
      · exact hnone
      · rw [Keyed.find?, if_pos rfl]
    · have hne : e.1.name ≠ f.name := fun hk => he (List.mem_map.mpr ⟨_, h, hk.symm⟩)
      split
      · exact ih hfs h
      · rw [Keyed.find?, if_neg hne, ih hfs h]

lemma find?_members (hms : (Json.obj ms).distinct = true) :
    Keyed.find? (Keyed.merge (canonicalFields fs) (Json.writtenMembers (nonNull ms))) k =
      (((Keyed.find? ms k).filter (!·.isNull)).map Json.written).or
        (Keyed.find? (canonicalFields fs) k) := by
  have hkeys := (Json.distinct_obj.mp hms).1
  have hwritten : (Keyed.keys (Json.writtenMembers (nonNull ms))).Nodup :=
    Json.keys_writtenMembers.symm ▸ (Json.distinct_obj.mp (distinct_nonNull hms)).1
  rw [Keyed.find?_merge, Keyed.ofPairs_of_nodup hwritten, Json.writtenMembers_eq,
    Keyed.find?_mapValues, find?_nonNull hkeys]

namespace RecordMatched

lemma of_matches (hl : (View.record fs ms).tidy = true) (hr : (View.record gs ns).tidy = true)
    (h : (View.record fs ms).canonical.Matches (View.record gs ns).canonical) :
    RecordMatched fs gs ms ns :=
  ⟨hl, hr, Json.same_of_matches (Json.distinct_obj.mp (distinct_canonical _ hl)).1 h⟩

variable (h : RecordMatched fs gs ms ns)
include h

lemma field (i : ℕ) (hi : fs[i]? = some (f, g, v)) (hj : gs[i]? = some (f, g', w))
    (hf : f.name ∉ Keyed.keys ms) (hf' : f.name ∉ Keyed.keys ns) : FieldMatched v w := by
  obtain ⟨hfs, htidy, hms⟩ := tidy_record.mp h.left
  obtain ⟨hgs, htidy', hns⟩ := tidy_record.mp h.right
  have hv := List.mem_of_getElem? hi
  have hw := List.mem_of_getElem? hj
  refine ⟨htidy _ hv, htidy' _ hw, ?_⟩
  have hk := h.members f.name
  rwa [find?_members hms, find?_members hns, Keyed.find?_eq_none_iff.mpr hf,
    Keyed.find?_eq_none_iff.mpr hf', find?_canonicalFields (hfs false) hv,
    find?_canonicalFields (hgs false) hw] at hk

lemma own (hv : (View.record fs ms).Fits true) (hw : (View.record gs ns).Fits true) (i : ℕ)
    (hi : fs[i]? = some (f, g, v)) (hj : gs[i]? = some (f, g', w)) (hf : f.label = f.name) :
    FieldMatched v w :=
  h.field i hi hj (hf ▸ hv.label _ (List.mem_of_getElem? hi))
    (hf ▸ hw.label _ (List.mem_of_getElem? hj))

lemma closed (hms : ms = []) (hns : ns = []) (i : ℕ) (hi : fs[i]? = some (f, g, v))
    (hj : gs[i]? = some (f, g', w)) : FieldMatched v w :=
  h.field i hi hj (by simp [hms, Keyed.keys]) (by simp [hns, Keyed.keys])

end RecordMatched

namespace FieldMatched

lemma matched (h : FieldMatched v w) (hv : v.isNull = false) (hw : w.isNull = false) :
    v.canonical.Matches w.canonical := by
  have hshown := h.shown
  rw [View.shown, View.shown, if_neg (by simp [hv]), if_neg (by simp [hw])] at hshown
  exact Option.rel_some_some.mp hshown

lemma by_view {a b : α} (h : FieldMatched (view a) (view b)) (hview : ∀ a, (view a).isNull = false) :
    MatchedBy view a b := ⟨h.left, h.right, h.matched (hview a) (hview b)⟩

lemma text {s t : String} (h : FieldMatched (.text s) (.text t)) : s = t := by
  exact Json.eq_of_matches_str (h.matched rfl rfl)

lemma nullable {a b : Option α} (h : FieldMatched (.nullable view a) (.nullable view b))
    (hview : ∀ a, (view a).isNull = false) : Option.Rel (MatchedBy view) a b := by
  have hshown := h.shown
  cases a with
  | none =>
    cases b with
    | none => exact .none
    | some b =>
      have hb : (View.nullable view (some b)).shown = some (view b).canonical :=
        if_neg (by simp [View.nullable, hview])
      rw [hb] at hshown
      cases hshown
  | some a =>
    have ha : (View.nullable view (some a)).shown = some (view a).canonical :=
      if_neg (by simp [View.nullable, hview])
    cases b with
    | none =>
      rw [ha] at hshown
      cases hshown
    | some b => exact .some (by_view ⟨h.left, h.right, h.shown⟩ hview)

lemma optional {a b : Option (Option α)}
    (h : FieldMatched (a.elim nullView (.nullable view)) (b.elim nullView (.nullable view)))
    (hview : ∀ a, (view a).isNull = false) : Option.Rel (MatchedBy view) a.join b.join := by
  have hjoin : ∀ a : Option (Option α),
      a.elim nullView (.nullable view) = .nullable view a.join := by
    intro a
    cases a <;> rfl
  rw [hjoin, hjoin] at h
  exact h.nullable hview

lemma optionalText {a b : Option (Option String)}
    (h : FieldMatched (a.elim nullView .text?) (b.elim nullView .text?)) : a.join = b.join := by
  have hjoin := h.optional fun _ => rfl
  generalize a.join = s, b.join = t at hjoin
  cases hjoin with
  | none => rfl
  | some h => exact congrArg some (Json.eq_of_matches_str h.matched)

lemma named [Named α] [Named.Lawful α] {a b : α} (h : FieldMatched (.named a) (.named b)) :
    a = b := by
  have hname : Named.name a = Named.name b := h.text
  have hof := Named.Lawful.ofName?_name b
  rw [← hname, Named.Lawful.ofName?_name] at hof
  exact Option.some.inj hof

end FieldMatched

lemma elim_eq (a : Option α) (d : α) : a.elim (view d) view = view (a.getD d) := by
  cases a <;> rfl

lemma elim_listOf (l : Option (List α)) :
    l.elim (View.list []) (View.listOf view) = .listOf view (l.getD []) :=
  @elim_eq _ (View.listOf view) l []

namespace MatchedBy

lemma text {s t : String} (h : MatchedBy .text s t) : s = t := Json.eq_of_matches_str h.matched

lemma record {a b : α} (h : MatchedBy view a b) (hl : view a = .record fs ms)
    (hr : view b = .record gs ns) : RecordMatched fs gs ms ns :=
  .of_matches (hl ▸ h.left) (hr ▸ h.right) (hl ▸ hr ▸ h.matched)

lemma list {xs ys : List α} (h : MatchedBy (.listOf view) xs ys) :
    List.Forall₂ (MatchedBy view) xs ys := by
  have hleft := tidyItems_iff.mp h.left
  have hright := tidyItems_iff.mp h.right
  have hmatched := h.matched
  rw [listOf, listOf, canonical, canonical, canonicalItems_eq, canonicalItems_eq, Json.Matches,
    Json.equivalent, Json.equivalentItems_iff] at hmatched
  obtain ⟨hlength, hitems⟩ := hmatched
  refine List.forall₂_iff_get.mpr ⟨by simpa using hlength, fun i hi hi' => ?_⟩
  refine ⟨hleft _ (List.mem_map_of_mem (List.getElem_mem hi)),
    hright _ (List.mem_map_of_mem (List.getElem_mem hi')), ?_⟩
  exact hitems i _ _ (by simp [hi]) (by simp [hi'])

lemma mapping {m n : Keyed α} (h : MatchedBy (.mappingOf view) m n) :
    Keyed.Same (MatchedBy view) m n := by
  obtain ⟨hm, htidy⟩ := tidy_mapping.mp h.left
  obtain ⟨-, htidy'⟩ := tidy_mapping.mp h.right
  have hmatched := h.matched
  rw [mappingOf, mappingOf, canonical, canonical, canonicalEntries_eq, canonicalEntries_eq]
    at hmatched
  have hsame := Json.same_of_matches (by rwa [Keyed.keys_mapValues]) hmatched
  have hfind : ∀ (l : Keyed α) (k : String),
      Keyed.find? (Keyed.mapValues canonical (l.map fun e => (e.1, view e.2))) k =
        (Keyed.find? l k).map fun a => (view a).canonical := by
    intro l k
    change Keyed.find? (Keyed.mapValues canonical (Keyed.mapValues view l)) k = _
    rw [Keyed.find?_mapValues, Keyed.find?_mapValues, Option.map_map]
    rfl
  refine fun k => ?_
  have hk := hsame k
  rw [hfind, hfind] at hk
  cases ha : Keyed.find? m k with
  | none =>
    cases hb : Keyed.find? n k with
    | none => exact .none
    | some b =>
      rw [ha, hb] at hk
      cases hk
  | some a =>
    cases hb : Keyed.find? n k with
    | none =>
      rw [ha, hb] at hk
      cases hk
    | some b =>
      rw [ha, hb] at hk
      exact .some ⟨htidy _ (List.mem_map_of_mem (Keyed.mem_of_find? ha)),
        htidy' _ (List.mem_map_of_mem (Keyed.mem_of_find? hb)), Option.rel_some_some.mp hk⟩

end MatchedBy

end View

open View

def InputSchema.defaultView (s : InputSchema) : View :=
  s.default?.elim nullView fun d => .untyped d.value

structure InputSchema.Match (s t : InputSchema) : Prop where
  type : s.type?.getD .text = t.type?.getD .text
  required : s.isRequired = t.isRequired
  description : s.description?.join = t.description?.join
  default : FieldMatched s.defaultView t.defaultView

lemma InputSchema.match_of {s t : InputSchema} (h : MatchedBy view s t) : s.Match t := by
  have hr := h.record rfl rfl
  have htype := hr.closed rfl rfl 0 rfl rfl
  have hrequired := hr.closed rfl rfl 1 rfl rfl
  have hdescription := hr.closed rfl rfl 2 rfl rfl
  rw [elim_eq, elim_eq] at htype
  have hbool : ∀ b : Option Bool, b.elim (.plain (.bool false)) (fun b => .plain (.bool b)) =
      View.plain (.bool (b.getD false)) := fun b =>
    @elim_eq _ (fun b => .plain (.bool b)) b _
  rw [hbool, hbool] at hrequired
  exact ⟨htype.named, Json.eq_of_matches_bool (hrequired.matched rfl rfl),
    hdescription.optionalText, hr.closed rfl rfl 3 rfl rfl⟩

structure OutputSchema.Same (s t : OutputSchema) : Prop where
  type : s.type?.getD .text = t.type?.getD .text
  description : s.description?.join = t.description?.join

lemma OutputSchema.same_of {s t : OutputSchema} (h : MatchedBy view s t) : s.Same t := by
  have hr := h.record rfl rfl
  have htype := hr.closed rfl rfl 0 rfl rfl
  have hdescription := hr.closed rfl rfl 1 rfl rfl
  rw [elim_eq, elim_eq] at htype
  exact ⟨htype.named, hdescription.optionalText⟩

structure MovementAction.Same (a b : MovementAction) : Prop where
  target : a.targetSection = b.targetSection
  completion : a.completeAs = b.completeAs
  entityType : a.entityType = b.entityType

lemma MovementAction.same_of {a b : MovementAction} (h : MatchedBy view a b) : a.Same b := by
  have hr := h.record rfl rfl
  have htarget := hr.closed rfl rfl 0 rfl rfl
  have hcompletion := hr.closed rfl rfl 1 rfl rfl
  have htype := (hr.closed rfl rfl 2 rfl rfl).optional fun _ => rfl
  refine ⟨htarget.text, hcompletion.named, ?_⟩
  rw [entityType, entityType]
  generalize a.setEntityType?.join = x, b.setEntityType?.join = y at htype
  cases htype with
  | none => rfl
  | some h => exact congrArg some (FieldMatched.named ⟨h.left, h.right, .some h.matched⟩)

structure Movements.Same (m n : Movements) : Prop where
  onSuccess : Option.Rel MovementAction.Same m.onSuccess n.onSuccess
  onFailure : Option.Rel MovementAction.Same m.onFailure n.onFailure

lemma Movements.Same.refl (m : Movements) : m.Same m :=
  ⟨rel_refl (fun _ => ⟨rfl, rfl, rfl⟩) _, rel_refl (fun _ => ⟨rfl, rfl, rfl⟩) _⟩

lemma Movements.same_of {m n : Movements} (h : MatchedBy view m n) : m.Same n := by
  have hr := h.record rfl rfl
  have hsuccess := (hr.closed rfl rfl 0 rfl rfl).optional fun _ => rfl
  have hfailure := (hr.closed rfl rfl 1 rfl rfl).optional fun _ => rfl
  exact ⟨rel_imp hsuccess fun _ _ => MovementAction.same_of,
    rel_imp hfailure fun _ _ => MovementAction.same_of⟩

def NodeData.HidesMovements (d : NodeData) : Prop := movementsField.name ∈ Keyed.keys d.extras

structure NodeData.Match (d e : NodeData) : Prop where
  workerType : d.workerType = e.workerType
  config : Json.Matches (.obj (Json.writtenMembers d.config)) (.obj (Json.writtenMembers e.config))
  inputs : Option.Rel (Keyed.Same InputSchema.Match) d.inputs e.inputs
  outputs : Option.Rel (Keyed.Same OutputSchema.Same) d.outputs e.outputs
  movements : ¬ d.HidesMovements → ¬ e.HidesMovements →
    Option.Rel Movements.Same d.movements e.movements

lemma rel_mapping {α : Type} {view : α → View} {R : α → α → Prop} {a b : Option (Keyed α)}
    (h : Option.Rel (MatchedBy (.mappingOf view)) a b) (hR : ∀ {x y}, MatchedBy view x y → R x y) :
    Option.Rel (Keyed.Same R) a b := by
  cases h with
  | none => exact .none
  | some h => exact .some fun k => rel_imp (h.mapping k) fun _ _ => hR

lemma NodeData.match_of {d e : NodeData} (hd : d.view.Fits true) (he : e.view.Fits true)
    (h : MatchedBy view d e) : d.Match e := by
  have hr := h.record rfl rfl
  have hconfig := hr.own hd he 2 rfl rfl rfl
  rw [elim_eq, elim_eq] at hconfig
  refine ⟨(hr.own hd he 1 rfl rfl rfl).optionalText, hconfig.matched rfl rfl,
    rel_mapping ((hr.own hd he 3 rfl rfl rfl).optional fun _ => rfl) InputSchema.match_of,
    rel_mapping ((hr.own hd he 4 rfl rfl rfl).optional fun _ => rfl) OutputSchema.same_of,
    fun hhides hhides' => ?_⟩
  have hmovements := (hr.field 5 rfl rfl hhides hhides').optional fun _ => rfl
  exact rel_imp hmovements fun _ _ => Movements.same_of

structure CanvasNode.Match (n m : CanvasNode) : Prop where
  id : n.id = m.id
  kind : n.kind = m.kind
  data : n.data.Match m.data

lemma CanvasNode.Kept.fits_data {n : CanvasNode} (h : n.Kept) : n.data.view.Fits true := by
  rw [CanvasNode.data]
  cases hd : n.data? with
  | none => exact .of_closed rfl NodeData.fields_apart
  | some d => exact h.data d hd

lemma CanvasNode.match_of {n m : CanvasNode} (hn : n.Kept) (hm : m.Kept)
    (h : MatchedBy view n m) : n.Match m := by
  have hr := h.record rfl rfl
  have hdata := hr.own hn.fits hm.fits 3 rfl rfl rfl
  rw [elim_eq, elim_eq] at hdata
  exact ⟨(hr.own hn.fits hm.fits 0 rfl rfl rfl).text, (hr.own hn.fits hm.fits 1 rfl rfl rfl).named,
    NodeData.match_of hn.fits_data hm.fits_data (hdata.by_view fun _ => rfl)⟩

structure CanvasEdge.Match (e d : CanvasEdge) : Prop where
  source : e.source = d.source
  target : e.target = d.target
  mapping : Keyed.Same Eq e.mapping d.mapping

lemma CanvasEdge.match_of {e d : CanvasEdge} (he : e.Kept) (hd : d.Kept)
    (h : MatchedBy view e d) : e.Match d := by
  have hr := h.record rfl rfl
  refine ⟨(hr.own he.fits hd.fits 1 rfl rfl rfl).text, (hr.own he.fits hd.fits 2 rfl rfl rfl).text,
    ?_⟩
  have hdata := (hr.own he.fits hd.fits 3 rfl rfl rfl).optional fun _ => rfl
  have hfits : ∀ {e : CanvasEdge}, e.Kept → ∀ x ∈ e.data?.join, x.view.Fits true := by
    intro e he x hx
    exact he.data x (Option.join_eq_some_iff.mp hx)
  have hleft := hfits he
  have hright := hfits hd
  rw [CanvasEdge.mapping, CanvasEdge.mapping]
  generalize e.data?.join = a, d.data?.join = b at hdata hleft hright
  cases hdata with
  | none => exact fun _ => .none
  | @some x y hxy =>
    have hmapping := rel_mapping (R := Eq)
      (((hxy.record rfl rfl).own (hleft x rfl) (hright y rfl) 0 rfl rfl rfl).optional fun _ => rfl)
      MatchedBy.text
    change Keyed.Same Eq (x.mapping?.join.getD []) (y.mapping?.join.getD [])
    generalize x.mapping?.join = m, y.mapping?.join = n at hmapping
    cases hmapping with
    | none => exact fun _ => .none
    | some hmapping => exact hmapping

structure Canvas.Match (c d : Canvas) : Prop where
  nodes : List.Forall₂ CanvasNode.Match c.nodes d.nodes
  edges : List.Forall₂ CanvasEdge.Match c.edges d.edges

lemma Canvas.matched_lists {c d : Canvas} (hc : c.Parsed) (hd : d.Parsed)
    (h : c.sameAs d = true) : List.Forall₂ (MatchedBy CanvasNode.view) c.nodes d.nodes ∧
      List.Forall₂ (MatchedBy CanvasEdge.view) c.edges d.edges := by
  have hr : RecordMatched _ _ [] [] := .of_matches hc.tidy hd.tidy h
  have hnodes := hr.closed rfl rfl 0 rfl rfl
  have hedges := hr.closed rfl rfl 1 rfl rfl
  rw [elim_listOf, elim_listOf] at hnodes hedges
  exact ⟨(hnodes.by_view fun _ => rfl).list, (hedges.by_view fun _ => rfl).list⟩

lemma Canvas.match_of {c d : Canvas} (hc : c.Parsed) (hd : d.Parsed) (h : c.sameAs d = true) :
    c.Match d := by
  obtain ⟨hnodes, hedges⟩ := matched_lists hc hd h
  refine ⟨?_, ?_⟩
  · exact forall₂_imp_mem hnodes fun n hn m hm =>
      CanvasNode.match_of (hc.kept.1 n hn) (hd.kept.1 m hm)
  · exact forall₂_imp_mem hedges fun e he e' he' =>
      CanvasEdge.match_of (hc.kept.2 e he) (hd.kept.2 e' he')

/-! No member has a name twice -/

structure InputSchema.Distinct (inputs : Keyed InputSchema) : Prop where
  nodup : (Keyed.keys inputs).Nodup
  defaults : ∀ e ∈ inputs, ∀ x ∈ e.2.default?, x.value.distinct = true

structure NodeData.Neat (d : NodeData) : Prop where
  config : (Json.obj d.config).distinct = true
  inputs : ∀ m ∈ d.inputs, InputSchema.Distinct m

structure Canvas.Neat (c : Canvas) : Prop where
  nodes : ∀ n ∈ c.nodes, n.data.Neat
  edges : ∀ e ∈ c.edges, (Keyed.keys e.mapping).Nodup

lemma InputSchema.distinct_of_tidy {s : InputSchema} (h : s.view.tidy = true) :
    ∀ x ∈ s.default?, x.value.distinct = true := by
  intro x hx
  have hdefault := (tidy_record.mp h).2.1 _ (List.mem_of_getElem? (i := 3) rfl)
  rwa [View.fieldOf, hx] at hdefault

lemma tidy_mapping_of_nullable {α : Type} {view : α → View} {m : Option (Option (Keyed α))}
    (h : (m.elim nullView (.nullable (.mappingOf view))).tidy = true) :
    ∀ l ∈ m.join, (Keyed.keys l).Nodup ∧ ∀ e ∈ l, (view e.2).tidy = true := by
  intro l hl
  obtain rfl := Option.join_eq_some_iff.mp hl
  obtain ⟨hkeys, htidy⟩ := tidy_mapping.mp h
  refine ⟨?_, fun e he => htidy _ (List.mem_map_of_mem he)⟩
  simpa [Keyed.keys, Function.comp_def] using hkeys

lemma NodeData.neat_of_tidy {d : NodeData} (h : d.view.tidy = true) : d.Neat := by
  have hfields := (tidy_record.mp h).2.1
  have hconfig := hfields _ (List.mem_of_getElem? (i := 2) rfl)
  have hinputs := tidy_mapping_of_nullable (hfields _ (List.mem_of_getElem? (i := 3) rfl))
  rw [View.fieldOf, elim_eq] at hconfig
  exact ⟨hconfig, fun m hm => ⟨(hinputs m hm).1, fun e he =>
    InputSchema.distinct_of_tidy ((hinputs m hm).2 e he)⟩⟩

lemma CanvasNode.neat_of_tidy {n : CanvasNode} (h : n.view.tidy = true) : n.data.Neat := by
  have hdata := (tidy_record.mp h).2.1 _ (List.mem_of_getElem? (i := 3) rfl)
  rw [View.fieldOf, elim_eq] at hdata
  exact NodeData.neat_of_tidy hdata

lemma CanvasEdge.nodup_of_tidy {e : CanvasEdge} (h : e.view.tidy = true) :
    (Keyed.keys e.mapping).Nodup := by
  have hdata := (tidy_record.mp h).2.1 _ (List.mem_of_getElem? (i := 3) rfl)
  rw [CanvasEdge.mapping]
  cases hd : e.data?.join.bind fun d => d.mapping?.join with
  | none => exact List.nodup_nil
  | some m =>
    obtain ⟨d, hjoin, hm⟩ := Option.bind_eq_some_iff.mp hd
    rw [View.fieldOf, Option.join_eq_some_iff.mp hjoin] at hdata
    have hmapping := (tidy_record.mp hdata).2.1 _ (List.mem_of_getElem? (i := 0) rfl)
    exact (tidy_mapping_of_nullable hmapping m hm).1

lemma Canvas.Parsed.neat {c : Canvas} (h : c.Parsed) : c.Neat := by
  have hlist : ∀ {α : Type} {view : α → View} {l : Option (List α)},
      (l.elim (View.list []) (View.listOf view)).tidy = true → ∀ a ∈ l.getD [],
        (view a).tidy = true := by
    intro α view l hl a ha
    rw [elim_listOf] at hl
    exact tidyItems_iff.mp hl _ (List.mem_map_of_mem ha)
  have hfields := (tidy_record.mp h.tidy).2.1
  have hnodes := hlist (hfields _ (List.mem_of_getElem? (i := 0) rfl))
  have hedges := hlist (hfields _ (List.mem_of_getElem? (i := 1) rfl))
  exact ⟨fun n hn => CanvasNode.neat_of_tidy (hnodes n hn),
    fun e he => CanvasEdge.nodup_of_tidy (hedges e he)⟩

end Workflow
