import Workflow.Proofs.Document.Matched
import Workflow.Proofs.Document.Written

/-! A canvas is the same as what is read back of it, unless null takes the place of one of its
members, or a size or place is no number. -/

namespace Workflow

namespace Json

def isBoundless : Json → Bool
  | .float x => !x.isFinite
  | _ => false

variable {x y : Json} {ms ns : Keyed Json}

lemma isNull_written : x.written.isNull = (x.isNull || x.isBoundless) := by
  cases x with
  | float x => cases h : x.isFinite <;> simp [written, isBoundless, isNull, h]
  | _ => rfl

lemma eq_null_of_matches (h : Matches x .null) : x = .null := by
  cases x <;> first | rfl | simp [Matches, equivalent, sameAmount, amount?] at h

def Bounded (ms : Keyed Json) : Prop := ∀ e ∈ ms, e.2.isBoundless = false

lemma nonNull_written (h : Bounded ms) :
    writtenMembers (View.nonNull (writtenMembers ms)) = writtenMembers (View.nonNull ms) := by
  have hfilter : View.nonNull (writtenMembers ms) = writtenMembers (View.nonNull ms) := by
    rw [writtenMembers_eq, writtenMembers_eq, View.nonNull, View.nonNull, Keyed.mapValues,
      Keyed.mapValues, List.filter_map]
    refine congrArg _ (List.filter_congr fun e he => ?_)
    simp [isNull_written, h e he]
  rw [hfilter, writtenMembers_written]

lemma reflexive_written (x : Json) : x.written.reflexive = true :=
  reflexive_of_finite (finite_written x)

lemma reflexive_obj : (Json.obj ms).reflexive = true ↔ ∀ e ∈ ms, e.2.reflexive = true :=
  numbersMembers_iff

lemma reflexive_merge (hm : (Json.obj ms).reflexive = true) (hn : (Json.obj ns).reflexive = true) :
    (Json.obj (Keyed.merge ms ns)).reflexive = true := by
  have hset : ∀ (k : String) (x : Json) (ms : Keyed Json), x.reflexive = true →
      (Json.obj ms).reflexive = true → (Json.obj (Keyed.set ms k x)).reflexive = true := by
    intro k x ms hx hms
    rw [reflexive_obj] at hms ⊢
    induction ms with
    | nil => simpa [Keyed.set] using hx
    | cons e ms ih =>
      obtain ⟨he, hms⟩ := List.forall_mem_cons.mp hms
      rw [Keyed.set]
      split
      · exact List.forall_mem_cons.mpr ⟨hx, hms⟩
      · exact List.forall_mem_cons.mpr ⟨he, ih hms⟩
  rw [reflexive_obj] at hn
  induction ns generalizing ms with
  | nil => exact hm
  | cons e ns ih =>
    obtain ⟨he, hrest⟩ := List.forall_mem_cons.mp hn
    exact ih (hset e.1 e.2 ms he hm) hrest

end Json

lemma Floating.sameValue_self {x : Floating} (h : x ≠ .nan false) : x.sameValue x = true := by
  cases x with
  | finite x => simp [sameValue, Binary64.sameValue]
  | infinite => exact beq_self_eq_true _
  | nan named => cases named <;> simp_all [sameValue]

namespace View

variable {α : Type} {view : α → View} {v w default : View} {f : α → α} {x : Json}
  {fs gs : List (FieldName × Bool × View)} {ms ns : Keyed Json}

structure Even (v w : View) : Prop where
  isNull : v.isNull = w.isNull
  canonical : v.canonical = w.canonical
  reflexive : w.canonical.reflexive = true

structure FieldEven (d e : FieldName × Bool × View) : Prop where
  name : d.1 = e.1
  view : d.2.2.Even e.2.2

namespace Even

lemma plain (h : x.reflexive = true) : (View.plain x).Even (.plain x) := ⟨rfl, rfl, h⟩

lemma number {x : Floating} (h : x ≠ .nan false) : (View.number x.written).Even (.number x) where
  isNull := rfl
  canonical := by rw [Floating.written_eq_self_iff.mpr h]
  reflexive := Floating.sameValue_self h

lemma untyped (h : x.isBoundless = false) : (View.untyped x.written).Even (.untyped x) where
  isNull := by
    rw [isNull_untyped, isNull_untyped, Json.isNull_written, h, Bool.or_false]
  canonical := Json.written_written x
  reflexive := Json.reflexive_written x

lemma list {l : List α} (h : ∀ a ∈ l, (view (f a)).Even (view a)) :
    (View.listOf view (l.map f)).Even (.listOf view l) where
  isNull := rfl
  canonical := by
    rw [listOf, listOf, View.canonical, View.canonical, canonicalItems_eq, canonicalItems_eq,
      List.map_map, List.map_map, List.map_map]
    exact congrArg Json.arr (List.map_congr_left fun a ha => (h a ha).canonical)
  reflexive := by
    rw [listOf, View.canonical, canonicalItems_eq, Json.reflexive, Json.numbers,
      Json.numbersItems_iff, List.forall_mem_map, List.forall_mem_map]
    exact fun a ha => (h a ha).reflexive

lemma mapping {m : Keyed α} (h : ∀ e ∈ m, (view (f e.2)).Even (view e.2)) :
    (View.mappingOf view (Keyed.mapValues f m)).Even (.mappingOf view m) where
  isNull := rfl
  canonical := by
    rw [mappingOf, mappingOf, View.canonical, View.canonical, canonicalEntries_eq,
      canonicalEntries_eq, Keyed.mapValues, Keyed.mapValues, Keyed.mapValues, List.map_map,
      List.map_map, List.map_map]
    exact congrArg Json.obj (List.map_congr_left fun e he =>
      congrArg (e.1, ·) (h e he).canonical)
  reflexive := by
    rw [mappingOf, View.canonical, canonicalEntries_eq, Json.reflexive_obj, Keyed.mapValues,
      List.forall_mem_map, List.forall_mem_map]
    exact fun e he => (h e he).reflexive

lemma nullable {a : Option α} (h : ∀ x ∈ a, (view (f x)).Even (view x)) :
    (View.nullable view (a.map f)).Even (.nullable view a) := by
  cases a with
  | none => exact plain rfl
  | some x => exact h x rfl

lemma record (h : List.Forall₂ FieldEven fs gs) (hx : Json.Bounded ms) :
    (View.record fs (Json.writtenMembers ms)).Even (.record gs ms) where
  isNull := rfl
  canonical := by
    have hfields : canonicalFields fs = canonicalFields gs := by
      induction h with
      | nil => rfl
      | cons h _ ih =>
        rw [canonicalFields, canonicalFields, h.name, h.view.isNull, h.view.canonical, ih]
    rw [View.canonical, View.canonical, hfields]
    exact congrArg (fun ns => Json.obj (Keyed.merge _ ns)) (Json.nonNull_written hx)
  reflexive := by
    refine Json.reflexive_merge ?_ (Json.reflexive_written (.obj (nonNull ms)))
    rw [Json.reflexive_obj]
    induction h with
    | nil => exact List.forall_mem_nil _
    | cons h _ ih =>
      rw [canonicalFields]
      split
      · exact ih
      · exact List.forall_mem_cons.mpr ⟨h.view.reflexive, ih⟩

lemma closed (h : List.Forall₂ FieldEven fs gs) : (View.record fs []).Even (.record gs []) :=
  @record _ _ [] h (List.forall_mem_nil _)

end Even

namespace FieldEven

variable {n : FieldName} {g g' : Bool}

lemma of_even (h : v.Even w) : FieldEven (n, g, v) (n, g', w) := ⟨rfl, h⟩

lemma fieldOf {a : Option α} (h : ∀ x ∈ a, (view (f x)).Even (view x))
    (hd : default.Even default) :
    FieldEven (View.fieldOf n view (a.map f) default) (View.fieldOf n view a default) := by
  cases a with
  | none => exact of_even hd
  | some x => exact of_even (h x rfl)

lemma kept {a : Option α} (h : ∀ x, (view x).Even (view x)) (hd : default.Even default) :
    FieldEven (View.fieldOf n view a default) (View.fieldOf n view a default) := by
  cases a with
  | none => exact of_even hd
  | some x => exact of_even (h x)

lemma text? {a : Option (Option String)} :
    FieldEven (View.fieldOf n .text? a nullView) (View.fieldOf n .text? a nullView) :=
  kept (fun s => by cases s <;> exact .plain rfl) (.plain rfl)

end FieldEven

end View

open View

def InputSchema.Steady (s : InputSchema) : Prop := ∀ d ∈ s.default?, d.value.isBoundless = false

structure NodeData.Steady (d : NodeData) : Prop where
  inputs : ∀ m ∈ d.inputs, ∀ e ∈ m, e.2.Steady
  extras : Json.Bounded d.extras

structure CanvasNode.Steady (n : CanvasNode) : Prop where
  position : ∀ p ∈ n.position?, p.Durable
  data : ∀ d ∈ n.data?, d.Steady
  width : n.width?.join ≠ some (.nan false)
  height : n.height?.join ≠ some (.nan false)
  extras : Json.Bounded n.extras

structure CanvasEdge.Steady (e : CanvasEdge) : Prop where
  data : ∀ d ∈ e.data?.join, Json.Bounded d.extras
  extras : Json.Bounded e.extras

/-- No size or place is a value that is no number and was not written as one, and no default and no
further member is a number that is not finite. -/
structure Canvas.Steady (c : Canvas) : Prop where
  nodes : ∀ n ∈ c.nodes, n.Steady
  edges : ∀ e ∈ c.edges, e.Steady

/-! What is read back is steady -/

lemma Json.isBoundless_of_finite {x : Json} (h : x.finite = true) : x.isBoundless = false := by
  cases x with
  | float x => exact congrArg (!·) h
  | _ => rfl

lemma Json.bounded_of_finite {ms : Keyed Json} (h : finiteMembers ms = true) : Bounded ms :=
  fun e he => isBoundless_of_finite (numbersMembers_iff.mp h e he)

lemma InputSchema.Durable.steady {s : InputSchema} (h : s.Durable) : s.Steady := by
  intro d hd
  obtain ⟨x, rfl, hx⟩ := h d hd
  exact Json.isBoundless_of_finite hx

lemma NodeData.Durable.steady {d : NodeData} (h : d.Durable) : d.Steady where
  inputs m hm e he := (h.inputs m hm e he).steady
  extras := Json.bounded_of_finite h.extras

lemma CanvasNode.Durable.steady {n : CanvasNode} (h : n.Durable) : n.Steady where
  position := h.position
  data d hd := (h.data d hd).steady
  width := h.width
  height := h.height
  extras := Json.bounded_of_finite h.extras

lemma CanvasEdge.Durable.steady {e : CanvasEdge} (h : e.Durable) : e.Steady where
  data d hd := Json.bounded_of_finite (h.data d hd)
  extras := Json.bounded_of_finite h.extras

lemma Canvas.steady_written (c : Canvas) : c.written.Steady where
  nodes n hn := (c.durable_written.nodes n hn).steady
  edges e he := (c.durable_written.edges e he).steady

/-! What is steady is the same as what is read back of it -/

namespace View.Even

variable {α : Type} {view : α → View}

lemma kept_nullable (h : ∀ a, (view a).Even (view a)) (a : Option α) :
    (View.nullable view a).Even (.nullable view a) := by
  cases a with
  | none => exact .plain rfl
  | some a => exact h a

lemma kept_mapping (h : ∀ a, (view a).Even (view a)) (m : Keyed α) :
    (View.mappingOf view m).Even (.mappingOf view m) := by
  have hid : Keyed.mapValues id m = m := mapValues_eq_self.mpr fun _ _ => rfl
  have hm : (View.mappingOf view (Keyed.mapValues id m)).Even (.mappingOf view m) :=
    .mapping fun e _ => h e.2
  rwa [hid] at hm

lemma object (m : Keyed Json) : (View.object (Json.writtenMembers m)).Even (.object m) :=
  @untyped (.obj m) rfl

lemma zero : (View.number Floating.zero).Even (.number Floating.zero) :=
  @number Floating.zero nofun

end View.Even

lemma InputSchema.Steady.even {s : InputSchema} (h : s.Steady) : s.written.view.Even s.view :=
  .closed (.cons (.kept (fun _ => .plain rfl) (.plain rfl)) <|
    .cons (.kept (fun _ => .plain rfl) (.plain rfl)) <| .cons .text? <|
    .cons (.fieldOf (fun d hd => .untyped (h d hd)) (.plain rfl)) .nil)

lemma OutputSchema.even (s : OutputSchema) : s.view.Even s.view :=
  .closed (.cons (.kept (fun _ => .plain rfl) (.plain rfl)) <| .cons .text? .nil)

lemma MovementAction.even (a : MovementAction) : a.view.Even a.view :=
  .closed (.cons (.of_even (.plain rfl)) <| .cons (.of_even (.plain rfl)) <|
    .cons (.kept (Even.kept_nullable fun _ => .plain rfl) (.plain rfl)) .nil)

lemma Movements.even (m : Movements) : m.view.Even m.view :=
  .closed (.cons (.kept (Even.kept_nullable MovementAction.even) (.plain rfl)) <|
    .cons (.kept (Even.kept_nullable MovementAction.even) (.plain rfl)) .nil)

lemma NodeData.Steady.even {d : NodeData} (h : d.Steady) : d.written.view.Even d.view := by
  have hinputs : ∀ o ∈ d.inputs?, ∀ m ∈ o, ∀ e ∈ m, e.2.Steady := fun o ho m hm =>
    h.inputs m (Option.join_eq_some_iff.mpr (hm ▸ ho))
  exact .record (.cons .text? <| .cons .text? <|
    .cons (.fieldOf (fun _ _ => .object _) (.object [])) <|
    .cons (.fieldOf (fun o ho => .nullable fun m hm => .mapping fun e he =>
      (hinputs o ho m hm e he).even) (.plain rfl)) <|
    .cons (.kept (Even.kept_nullable (Even.kept_mapping OutputSchema.even)) (.plain rfl)) <|
    .cons (.kept (Even.kept_nullable Movements.even) (.plain rfl)) .nil) h.extras

lemma NodeData.steady_empty : NodeData.empty.Steady where
  inputs := by simp [inputs, empty]
  extras := List.forall_mem_nil _

lemma Position.Durable.even {p : Position} (h : p.Durable) : p.written.view.Even p.view :=
  .closed (.cons (.fieldOf (fun _ hx => .number fun he => h.x (he ▸ hx)) .zero) <|
    .cons (.fieldOf (fun _ hx => .number fun he => h.y (he ▸ hx)) .zero) .nil)

lemma CanvasNode.Steady.even {n : CanvasNode} (h : n.Steady) : n.written.view.Even n.view := by
  have hnumber : ∀ {x : Option (Option Floating)}, x.join ≠ some (.nan false) → ∀ o ∈ x,
      (View.nullable .number (o.map Floating.written)).Even (.nullable .number o) := by
    intro x hx o ho
    refine .nullable fun y hy => .number fun he => hx ?_
    rw [Option.join_eq_some_iff, ← he, ← hy]
    exact ho
  have horigin : Position.Durable ⟨none, none⟩ := ⟨by simp, by simp⟩
  exact .record (.cons (.of_even (.plain rfl)) <| .cons (.of_even (.plain rfl)) <|
    .cons (.fieldOf (fun p hp => (h.position p hp).even) horigin.even) <|
    .cons (.fieldOf (fun d hd => (h.data d hd).even) NodeData.steady_empty.even) <|
    .cons (.fieldOf (fun _ _ => .nullable fun _ _ => .object _) (.plain rfl)) <|
    .cons (.fieldOf (hnumber h.width) (.plain rfl)) <|
    .cons (.fieldOf (hnumber h.height) (.plain rfl)) <| .cons .text? .nil) h.extras

lemma EdgeData.even {d : EdgeData} (h : Json.Bounded d.extras) : d.written.view.Even d.view :=
  .record (.cons (.kept (Even.kept_nullable (Even.kept_mapping fun _ => .plain rfl)) (.plain rfl))
    .nil) h

lemma CanvasEdge.Steady.even {e : CanvasEdge} (h : e.Steady) : e.written.view.Even e.view := by
  have hdata : ∀ o ∈ e.data?, ∀ d ∈ o, Json.Bounded d.extras := fun o ho d hd =>
    h.data d (Option.join_eq_some_iff.mpr (hd ▸ ho))
  exact .record (.cons (.of_even (.plain rfl)) <| .cons (.of_even (.plain rfl)) <|
    .cons (.of_even (.plain rfl)) <|
    .cons (.fieldOf (fun o ho => .nullable fun d hd => EdgeData.even (hdata o ho d hd)) (.plain rfl))
      .nil) h.extras

lemma Canvas.Steady.even {c : Canvas} (h : c.Steady) : c.written.view.Even c.view := by
  have hnodes : ∀ l ∈ c.nodes?, ∀ n ∈ l, n.Steady := fun l hl n hn =>
    h.nodes n (by rw [Canvas.nodes, hl]; exact hn)
  have hedges : ∀ l ∈ c.edges?, ∀ e ∈ l, e.Steady := fun l hl e he =>
    h.edges e (by rw [Canvas.edges, hl]; exact he)
  have hnil : (View.list []).Even (.list []) := ⟨rfl, rfl, rfl⟩
  exact .closed (.cons (.fieldOf (fun l hl => .list fun n hn => (hnodes l hl n hn).even) hnil) <|
    .cons (.fieldOf (fun l hl => .list fun e he => (hedges l hl e he).even) hnil) .nil)

lemma Canvas.written_sameAs {c : Canvas} (hc : c.Parsed) (h : c.Steady) :
    c.written.sameAs c = true := by
  rw [sameAs, canonical, canonical, h.even.canonical]
  exact Json.equivalent_self _ (View.distinct_canonical _ hc.tidy) h.even.reflexive

/-! What is the same as a steady canvas is steady -/

namespace View

variable {α : Type} {view : α → View} {v w : View} {fs gs : List (FieldName × Bool × View)}
  {ms ns : Keyed Json}

def Honest (v : View) : Prop := v.isNull = false → v.canonical ≠ .null

lemma honest_text (s : String) : (View.text s).Honest := fun _ => nofun

lemma honest_record : (View.record fs ms).Honest := fun _ => nofun

lemma honest_nullable (h : ∀ a, (view a).canonical ≠ .null) (a : Option α) :
    (View.nullable view a).Honest := by
  cases a with
  | none => exact fun hn => nomatch hn
  | some a => exact fun _ => h a

lemma honest_elim {a : Option α} {default : View} (h : ∀ a, (view a).Honest)
    (hd : default.Honest) : (a.elim default view).Honest := by
  cases a with
  | none => exact hd
  | some a => exact h a

lemma honest_optional (h : ∀ a, (view a).canonical ≠ .null) (a : Option (Option α)) :
    (a.elim nullView (.nullable view)).Honest :=
  honest_elim (honest_nullable h) nofun

lemma honest_text? (a : Option (Option String)) : (a.elim nullView .text?).Honest :=
  honest_optional nofun a

lemma honest_number? (a : Option (Option Floating)) :
    (a.elim nullView (.nullable .number)).Honest :=
  honest_optional nofun a

lemma honest_object? (a : Option (Option (Keyed Json))) :
    (a.elim nullView (.nullable .object)).Honest :=
  honest_optional nofun a

lemma exists_of_canonicalFields {k : String} {x : Json}
    (h : Keyed.find? (canonicalFields fs) k = some x) :
    ∃ e ∈ fs, e.2.2.isNull = false ∧ e.2.2.canonical = x := by
  induction fs with
  | nil => cases h
  | cons e fs ih =>
    rw [canonicalFields] at h
    split at h
    · obtain ⟨d, hd, hx⟩ := ih h
      exact ⟨d, List.mem_cons_of_mem _ hd, hx⟩
    · rename_i hnull
      rw [Keyed.find?] at h
      split at h
      · exact ⟨e, List.mem_cons_self, by simpa using hnull, Option.some.inj h⟩
      · obtain ⟨d, hd, hx⟩ := ih h
        exact ⟨d, List.mem_cons_of_mem _ hd, hx⟩

lemma RecordMatched.bounded (h : RecordMatched fs gs ms ns) (hfs : ∀ e ∈ fs, e.2.2.Honest)
    (hms : Json.Bounded ms) : Json.Bounded ns := by
  -- A member that is written as null would have to match one that is.
  intro e he
  by_contra hne
  obtain ⟨-, -, hleft⟩ := tidy_record.mp h.left
  obtain ⟨-, -, hright⟩ := tidy_record.mp h.right
  have hbound : e.2.isBoundless = true := by simpa using hne
  have hfind := Keyed.find?_of_mem (Json.distinct_obj.mp hright).1 he
  have hnull : e.2.isNull = false := by
    cases hx : e.2 <;> simp_all [Json.isBoundless, Json.isNull]
  have hwritten : e.2.written = .null := Json.isNull_iff.mp (by simp [Json.isNull_written, hbound])
  have hmember := h.members e.1
  rw [find?_members hleft, find?_members hright, hfind, Option.filter_some, hnull] at hmember
  simp only [Bool.not_false, if_true, Option.map_some, Option.some_or, hwritten] at hmember
  obtain ⟨y, hy, hmatch⟩ := rel_some_right hmember
  obtain rfl := Json.eq_null_of_matches hmatch
  cases hk : ((Keyed.find? ms e.1).filter (!·.isNull)).map Json.written with
  | none =>
    rw [hk, Option.none_or] at hy
    obtain ⟨d, hd, hshown, hcanonical⟩ := exists_of_canonicalFields hy
    exact hfs d hd hshown hcanonical
  | some z =>
    rw [hk, Option.some_or] at hy
    obtain ⟨x, hx, hz⟩ := Option.map_eq_some_iff.mp hk
    obtain ⟨hx, hxnull⟩ := Option.filter_eq_some_iff.mp hx
    have hbound' := hms _ (Keyed.mem_of_find? hx)
    have hxwritten := Json.isNull_iff.mpr (hz.trans (Option.some.inj hy))
    rw [Json.isNull_written, hbound', Bool.or_false] at hxwritten
    simp [hxwritten] at hxnull

lemma MatchedBy.number_ne {x y : Floating} (h : MatchedBy .number x y) : y ≠ .nan false := by
  rintro rfl
  have hmatched : Json.Matches (.float x) (.float (.nan false)) := h.matched
  cases x <;> simp [Json.Matches, Json.equivalent, Json.sameAmount, Json.amount?,
    Json.Amount.sameValue, Floating.sameValue] at hmatched

end View

lemma View.shown_untyped {x : Json} :
    (View.untyped x).shown = some .null ↔ x.isBoundless = true := by
  cases x with
  | float x => cases h : x.isFinite <;>
      simp [shown, isNull, canonical, Json.written, Json.isBoundless, h]
  | _ => simp [shown, isNull, canonical, Json.written, Json.isBoundless]

lemma InputSchema.Steady.of_match {s t : InputSchema} (hs : s.Steady) (h : s.Match t) :
    t.Steady := by
  intro d hd
  by_contra hne
  have hshown := h.default.shown
  have hright : t.defaultView.shown = some .null := by
    rw [defaultView, hd]
    exact View.shown_untyped.mpr (by simpa using hne)
  rw [hright] at hshown
  obtain ⟨y, hy, hmatch⟩ := rel_some_right hshown
  obtain rfl := Json.eq_null_of_matches hmatch
  rw [defaultView] at hy
  cases hdefault : s.default? with
  | none =>
    rw [hdefault] at hy
    cases hy
  | some d =>
    rw [hdefault, Option.elim_some, View.shown_untyped, hs d hdefault] at hy
    cases hy

lemma View.MatchedBy.mapping_exists {α : Type} {view : α → View} {m n : Keyed α}
    {e : String × α} (h : MatchedBy (.mappingOf view) m n) (he : e ∈ n) :
    ∃ d ∈ m, MatchedBy view d.2 e.2 := by
  have hkeys : (Keyed.keys n).Nodup := by
    have hn := (tidy_mapping.mp h.right).1
    rwa [Keyed.keys, List.map_map] at hn
  obtain ⟨a, ha, hmatched⟩ := h.mapping.flip.exists_left hkeys he
  exact ⟨_, Keyed.mem_of_find? ha, hmatched⟩

lemma NodeData.Steady.of_matched {d e : NodeData} (hs : d.Steady) (hd : d.view.Fits true)
    (he : e.view.Fits true) (h : MatchedBy view d e) : e.Steady where
  inputs m hm x hx := by
    have hinputs := ((h.record rfl rfl).own hd he 3 rfl rfl rfl).optional fun _ => rfl
    rw [show e.inputs?.join = some m from hm] at hinputs
    obtain ⟨m', hm', hmatched⟩ := rel_some_right hinputs
    obtain ⟨y, hy, hyx⟩ := hmatched.mapping_exists hx
    exact (hs.inputs m' hm' y hy).of_match (InputSchema.match_of hyx)
  extras := by
    refine (h.record rfl rfl).bounded ?_ hs.extras
    simp only [List.forall_mem_cons]
    exact ⟨honest_text? _, honest_text? _, honest_elim nofun nofun,
      honest_optional nofun _, honest_optional nofun _, honest_optional nofun _, List.forall_mem_nil _⟩

lemma Position.durable_of_matched {p q : Position} (h : MatchedBy view p q) : q.Durable := by
  have hr := h.record rfl rfl
  have hx := hr.closed rfl rfl 0 rfl rfl
  have hy := hr.closed rfl rfl 1 rfl rfl
  rw [elim_eq, elim_eq] at hx hy
  have hne : ∀ {x : Option Floating}, x.getD .zero ≠ .nan false → x ≠ some (.nan false) := by
    rintro _ h rfl
    exact h rfl
  exact ⟨hne (hx.by_view fun _ => rfl).number_ne, hne (hy.by_view fun _ => rfl).number_ne⟩

lemma CanvasNode.Steady.of_matched {n m : CanvasNode} (hs : n.Steady) (hn : n.Kept) (hm : m.Kept)
    (h : MatchedBy view n m) : m.Steady := by
  have hr := h.record rfl rfl
  have hposition := hr.own hn.fits hm.fits 2 rfl rfl rfl
  have hdata := hr.own hn.fits hm.fits 3 rfl rfl rfl
  rw [elim_eq, elim_eq] at hposition hdata
  have hp := Position.durable_of_matched (hposition.by_view fun _ => rfl)
  have hd : n.data.Steady := by
    rw [CanvasNode.data]
    cases hd : n.data? with
    | none => exact NodeData.steady_empty
    | some d => exact hs.data d hd
  have hd' : m.data.Steady :=
    hd.of_matched hn.fits_data hm.fits_data (hdata.by_view fun _ => rfl)
  have hnumber : ∀ {x y : Option (Option Floating)}, FieldMatched
      (x.elim nullView (.nullable .number)) (y.elim nullView (.nullable .number)) →
        y.join ≠ some (.nan false) := by
    intro x y hxy hy
    have hjoin := hxy.optional fun _ => rfl
    rw [hy] at hjoin
    obtain ⟨_, -, hmatched⟩ := rel_some_right hjoin
    exact hmatched.number_ne rfl
  refine ⟨fun p hp' => ?_, fun d hd => ?_, hnumber (hr.own hn.fits hm.fits 5 rfl rfl rfl),
    hnumber (hr.own hn.fits hm.fits 6 rfl rfl rfl), hr.bounded ?_ hs.extras⟩
  · rwa [hp', Option.getD_some] at hp
  · rwa [CanvasNode.data, hd, Option.getD_some] at hd'
  · simp only [List.forall_mem_cons]
    exact ⟨honest_text _, honest_text _, honest_elim (fun _ => honest_record) honest_record,
      honest_elim (fun _ => honest_record) honest_record,
      honest_object? _, honest_number? _, honest_number? _, honest_text? _, List.forall_mem_nil _⟩

lemma CanvasEdge.Steady.of_matched {e d : CanvasEdge} (hs : e.Steady) (he : e.Kept) (hd : d.Kept)
    (h : MatchedBy view e d) : d.Steady where
  data x hx := by
    have hdata := ((h.record rfl rfl).own he.fits hd.fits 3 rfl rfl rfl).optional fun _ => rfl
    rw [hx] at hdata
    obtain ⟨y, hy, hyx⟩ := rel_some_right hdata
    refine (hyx.record rfl rfl).bounded ?_ (hs.data y hy)
    exact List.forall_mem_cons.mpr ⟨honest_optional nofun _, List.forall_mem_nil _⟩
  extras := by
    refine (h.record rfl rfl).bounded ?_ hs.extras
    simp only [List.forall_mem_cons]
    exact ⟨honest_text _, honest_text _, honest_text _, honest_optional nofun _,
      List.forall_mem_nil _⟩

lemma Canvas.Steady.of_sameAs {c d : Canvas} (hs : c.Steady) (hc : c.Parsed) (hd : d.Parsed)
    (h : c.sameAs d = true) : d.Steady := by
  obtain ⟨hnodes, hedges⟩ := Canvas.matched_lists hc hd h
  refine ⟨fun m hm => ?_, fun e he => ?_⟩
  · obtain ⟨n, hn, hmatched⟩ := exists_of_forall₂ hnodes hm
    exact (hs.nodes n hn).of_matched (hc.kept.1 n hn) (hd.kept.1 m hm) hmatched
  · obtain ⟨e', he', hmatched⟩ := exists_of_forall₂ hedges he
    exact (hs.edges e' he').of_matched (hc.kept.2 e' he') (hd.kept.2 e he) hmatched

theorem Canvas.written_sameAs_iff {c : Canvas} (hc : c.Parsed) :
    c.written.sameAs c = true ↔ c.Steady :=
  ⟨fun h => c.steady_written.of_sameAs hc.written hc h, Canvas.written_sameAs hc⟩

end Workflow
