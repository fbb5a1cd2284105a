import Workflow.Canvas.Document
import Workflow.Proofs.Document.Canonical
import Workflow.Proofs.Document.Stored

/-! A canvas is read from every spelling of its document, and always with the same canonical form
but for the order of members. -/

namespace Workflow

namespace Checked

variable {α β γ δ : Type} {E : α → β → Prop} {E' : γ → δ → Prop} {x : Checked α} {y : Checked β}

def Follows (E : α → β → Prop) (x : Checked α) (y : Checked β) : Prop :=
  ∀ a, x = .ok a → ∃ b, y = .ok b ∧ E a b

namespace Follows

lemma pure {a : α} {b : β} (h : E a b) : Follows E (Pure.pure a) (Pure.pure b) := by
  rintro _ ⟨⟩
  exact ⟨b, rfl, h⟩

lemma map {f : α → γ} {g : β → δ} (hfg : ∀ a b, E a b → E' (f a) (g b)) (h : Follows E x y) :
    Follows E' (f <$> x) (g <$> y) := by
  intro c hc
  obtain ⟨a, ha, rfl⟩ := map_eq_ok.mp hc
  obtain ⟨b, rfl, hab⟩ := h a ha
  exact ⟨g b, rfl, hfg a b hab⟩

lemma seq {f : Checked (α → γ)} {g : Checked (β → δ)}
    (hfg : Follows (fun f g => ∀ a b, E a b → E' (f a) (g b)) f g) (h : Follows E x y) :
    Follows E' (f <*> x) (g <*> y) := by
  intro c hc
  obtain ⟨f', a, hf, ha, rfl⟩ := seq_eq_ok.mp hc
  obtain ⟨g', rfl, hfg'⟩ := hfg f' hf
  obtain ⟨b, rfl, hab⟩ := h a ha
  exact ⟨g' b, rfl, hfg' a b hab⟩

lemma under {step : Step} (h : Follows E x y) : Follows E (x.under step) (y.under step) := by
  intro a ha
  obtain ⟨b, rfl, hab⟩ := h a (under_eq_ok.mp ha)
  exact ⟨b, rfl, hab⟩

end Follows

end Checked

open Checked (Follows)

def View.AlikeBy {α : Type} (view : α → View) (a b : α) : Prop := (view a).Alike (view b)

namespace Reader

variable {α : Type} {read : Reader α} {s : Shape} {view : α → View} {x y : Json}

def Respects (read : Reader α) (s : Shape) (view : α → View) : Prop :=
  ∀ x y : Json, x.distinct = true → Respells s x y →
    Follows (View.AlikeBy view) (read x) (read y)

structure Flat (read : Reader α) : Prop where
  arr : ∀ xs a, read (.arr xs) ≠ .ok a
  obj : ∀ ms a, read (.obj ms) ≠ .ok a

lemma Respects.of_flat (h : read.Flat) (hv : ∀ a, (view a).tidy = true) :
    read.Respects .value view := by
  intro x y hx hr a ha
  cases hr with
  | order hsame _ =>
    cases hsame with
    | refl => exact ⟨a, ha, .self (hv a)⟩
    | arr => exact absurd ha (h.arr _ a)
    | obj => exact absurd ha (h.obj _ a)

lemma text_respects : text.Respects .value .text := .of_flat ⟨nofun, nofun⟩ fun _ => rfl

lemma number_respects : number.Respects .value .number := .of_flat ⟨nofun, nofun⟩ fun _ => rfl

lemma boolean_respects : boolean.Respects .value fun b => .plain (.bool b) :=
  .of_flat ⟨nofun, nofun⟩ fun _ => rfl

section Named

variable [Named α]

lemma enumerated_respects : (enumerated α).Respects .value .named :=
  .of_flat ⟨nofun, nofun⟩ fun _ => rfl

lemma literal_respects : (literal α).Respects .value .named :=
  .of_flat ⟨nofun, nofun⟩ fun _ => rfl

end Named

lemma default_respects : Respects (fun x => DefaultValue.json <$> any x) .value
    fun d => .untyped d.value := by
  intro x y hx h d hd
  obtain rfl : .json x = d := Checked.ok.inj hd
  have hy := h.distinct hx
  cases h with
  | order hsame _ => exact ⟨.json y, rfl, .untyped hsame hx hy⟩

lemma object_respects : object.Respects .value .object := by
  intro x y hx h m hm
  have hy := h.distinct hx
  cases x with
  | obj ms =>
    obtain rfl : ms = m := Checked.ok.inj ((entries_any ms).symm.trans hm)
    cases h with
    | order hsame _ =>
      obtain ⟨ns, rfl, hmembers⟩ := hsame.of_obj
      exact ⟨ns, entries_any ns, .object ⟨hmembers, hx, hy⟩⟩
  | _ => cases hm

variable (h : read.Respects s view)
include h

lemma Respects.nullable : (Reader.nullable read).Respects s (.nullable view) := by
  intro x y hx hr
  have hread : ∀ z : Json, Reader.nullable read z =
      if z.isNull then .ok none else some <$> read z := fun z => by cases z <;> rfl
  rw [hread, hread, hr.isNull_eq]
  split
  · exact .pure (.self rfl)
  · exact .map (fun _ _ h => h) (h x y hx hr)

lemma itemsFrom_follows {xs ys : List Json} (hxs : ∀ x ∈ xs, x.distinct = true)
    (hr : List.Forall₂ (Respells s) xs ys) (i : ℕ) :
    Follows (List.Forall₂ (View.AlikeBy view)) (itemsFrom read i xs) (itemsFrom read i ys) := by
  induction hr generalizing i with
  | nil => exact .pure .nil
  | cons hxy _ ih =>
    obtain ⟨hx, hxs⟩ := List.forall_mem_cons.mp hxs
    exact .seq (.map (fun _ _ hab _ _ hrest => .cons hab hrest) (h _ _ hx hxy).under)
      (ih hxs (i + 1))

lemma Respects.list : (Reader.list read).Respects (.list s) (.listOf view) := by
  intro x y hx hr as has
  obtain ⟨xs, rfl, hitems⟩ := list_eq_ok has
  obtain ⟨ys, rfl, hxys⟩ := hr.items hx
  obtain ⟨bs, hbs, hab⟩ := itemsFrom_follows h (Json.distinct_arr.mp hx) hxys 0 as hitems
  refine ⟨bs, hbs, .list ?_⟩
  rwa [List.forall₂_map_left_iff, List.forall₂_map_right_iff]

omit h in
lemma entries_eq_ok {ms : Keyed Json} {m : Keyed α} (h : entries read ms = .ok m) :
    Keyed.keys m = Keyed.keys ms ∧
      ∀ k, Option.Rel (fun x a => read x = .ok a) (Keyed.find? ms k) (Keyed.find? m k) := by
  induction ms generalizing m with
  | nil =>
    cases h
    exact ⟨rfl, fun _ => .none⟩
  | cons e ms ih =>
    simp only [entries, Checked.seq_eq_ok, Checked.map_eq_ok, Checked.under_eq_ok] at h
    obtain ⟨_, rest, ⟨a, ha, rfl⟩, hrest, rfl⟩ := h
    obtain ⟨hkeys, hfind⟩ := ih hrest
    refine ⟨congrArg (e.1 :: ·) hkeys, fun k => ?_⟩
    rw [Keyed.find?, Keyed.find?]
    split
    · exact .some ha
    · exact hfind k

omit h in
lemma exists_entries {ms : Keyed Json} (h : ∀ e ∈ ms, ∃ a, read e.2 = .ok a) :
    ∃ m, entries read ms = .ok m := by
  induction ms with
  | nil => exact ⟨[], rfl⟩
  | cons e ms ih =>
    obtain ⟨⟨a, ha⟩, hms⟩ := List.forall_mem_cons.mp h
    obtain ⟨m, hm⟩ := ih hms
    exact ⟨(e.1, a) :: m, by rw [entries, ha, hm]; rfl⟩

lemma Respects.mapping : (Reader.mapping read).Respects (.mapping s) (.mappingOf view) := by
  intro x y hx hr m hm
  cases x with
  | obj ms =>
    obtain ⟨ns, rfl, hsame⟩ := hr.entries hx
    obtain ⟨hms, hvalues⟩ := Json.distinct_obj.mp hx
    have hns := (Json.distinct_obj.mp (hr.distinct hx)).1
    obtain ⟨hkeys, hfind⟩ := entries_eq_ok hm
    have hentries : ∃ n, entries read ns = .ok n := by
      refine exists_entries fun e he => ?_
      obtain ⟨x, hx, hxe⟩ := hsame.flip.exists_left hns he
      obtain ⟨a, -, ha⟩ := rel_some_left (hx ▸ hfind e.1)
      obtain ⟨b, hb, -⟩ := h x e.2 (hvalues _ (Keyed.mem_of_find? hx)) hxe a ha
      exact ⟨b, hb⟩
    obtain ⟨n, hn⟩ := hentries
    obtain ⟨hkeys', hfind'⟩ := entries_eq_ok hn
    have halike : Keyed.Same (View.AlikeBy view) m n := by
      refine Keyed.same_iff.mpr ⟨fun k => ?_, fun k a b ha hb => ?_⟩
      · exact (rel_isSome (hfind k)).symm.trans
          ((rel_isSome (hsame k)).trans (rel_isSome (hfind' k)))
      · obtain ⟨x, hx, hread⟩ := rel_some_right (ha ▸ hfind k)
        obtain ⟨y, hy, hread'⟩ := rel_some_right (hb ▸ hfind' k)
        have hxy : Respells s x y := Option.rel_some_some.mp (hx ▸ hy ▸ hsame k)
        obtain ⟨b', hb', hab⟩ := h x y (hvalues _ (Keyed.mem_of_find? hx)) hxy a hread
        obtain rfl := Checked.ok.inj (hb'.symm.trans hread')
        exact hab
    have hviews : ∀ l : Keyed α, Keyed.keys (l.map fun e => (e.1, view e.2)) = Keyed.keys l :=
      fun l => by simp [Keyed.keys, Function.comp_def]
    refine ⟨n, hn, .mapping (fun k => ?_) ?_ ?_⟩
    · change Option.Rel _ (Keyed.find? (Keyed.mapValues view m) k)
        (Keyed.find? (Keyed.mapValues view n) k)
      rw [Keyed.find?_mapValues, Keyed.find?_mapValues]
      exact rel_map (halike k) fun _ _ h => h
    · rw [hviews, hkeys]
      exact hms
    · rw [hviews, hkeys']
      exact hns
  | _ => cases hm

end Reader

section Records

open Reader

variable {α : Type} {read : Reader α} {s : Shape} {view : α → View}
  {fields : List (FieldName × Shape)} {ms ns : Keyed Json} {f : FieldName}

namespace Accords

variable (h : Accords fields ms ns)
include h

lemma required (i : ℕ) (hi : fields[i]? = some (f, s)) (hr : read.Respects s view) :
    Follows (View.AlikeBy view) (Reader.required ms f read) (Reader.required ns f read) := by
  have hrel : Option.Rel (Respells s) (f.find? ms) (f.find? ns) :=
    h.field _ (List.mem_of_getElem? hi)
  rw [Reader.required, Reader.required]
  cases hx : f.find? ms with
  | none => rintro _ ⟨⟩
  | some x =>
    rw [hx] at hrel
    obtain ⟨y, hy, hxy⟩ := rel_some_left hrel
    rw [hy]
    exact (hr x y (f.distinct_of_find? h.left hx) hxy).under

lemma given (i : ℕ) (hi : fields[i]? = some (f, s)) (hr : read.Respects s view) :
    Follows (Option.Rel (View.AlikeBy view)) (Reader.given ms f read)
      (Reader.given ns f read) := by
  have hrel : Option.Rel (Respells s) (f.find? ms) (f.find? ns) :=
    h.field _ (List.mem_of_getElem? hi)
  rw [Reader.given, Reader.given]
  cases hx : f.find? ms with
  | none =>
    rw [hx] at hrel
    rw [rel_none_left hrel]
    exact .pure .none
  | some x =>
    rw [hx] at hrel
    obtain ⟨y, hy, hxy⟩ := rel_some_left hrel
    rw [hy]
    exact .map (fun _ _ hab => .some hab) (hr x y (f.distinct_of_find? h.left hx) hxy).under

lemma further {names : List FieldName} (hn : names = fields.map Prod.fst) :
    Follows View.MembersAlike (pure (Reader.extras ms names)) (pure (Reader.extras ns names)) := by
  subst hn
  have hdistinct : ∀ {ls : Keyed Json}, (Json.obj ls).distinct = true →
      (Json.obj (Reader.extras ls (fields.map Prod.fst))).distinct = true := fun hls => by
    obtain ⟨hkeys, hvalues⟩ := Json.distinct_obj.mp hls
    exact Json.distinct_obj.mpr ⟨hkeys.sublist (List.filter_sublist.map _),
      fun e he => hvalues e (List.mem_of_mem_filter he)⟩
  exact .pure ⟨h.extras, hdistinct h.left, hdistinct h.right⟩

lemma alike {vs ws : List (FieldName × Bool × View)} {es es' : Keyed Json}
    (hvs : vs.map Prod.fst = fields.map Prod.fst) (hf : List.Forall₂ View.FieldAlike vs ws)
    (hx : View.MembersAlike es es') : (View.record vs es).Alike (.record ws es') := by
  refine .record hf (fun b => ?_) hx
  have hkeys := h.apart.imp fun hfg => hfg.key_ne (b := b)
  rw [← hvs, ← List.pairwise_map] at hkeys
  rwa [List.map_map] at hkeys

end Accords

lemma Reader.Respects.record {name : String} {build : Keyed Json → Checked α}
    (ha : (fields.map Prod.fst).Pairwise FieldName.Apart)
    (h : ∀ ms ns, Accords fields ms ns → Follows (View.AlikeBy view) (build ms) (build ns)) :
    (Reader.record name build).Respects (.record fields) view := by
  intro x y hx hr a hread
  obtain ⟨ms, rfl, hms⟩ := record_eq_ok hread
  obtain ⟨ns, rfl, hc⟩ := hr.accords hx ha
  exact h ms ns hc a hms

end Records

open Reader

def InputSchema.shape : Shape :=
  .record [(.plain "type", .value), (.plain "required", .value), (.plain "description", .value),
    (.plain "default", .value)]

def OutputSchema.shape : Shape :=
  .record [(.plain "type", .value), (.plain "description", .value)]

lemma nullable_text_respects : (nullable text).Respects .value .text? := text_respects.nullable

lemma InputSchema.respects : InputSchema.read.Respects InputSchema.shape InputSchema.view := by
  refine .record (by decide) fun ms ns h => .seq (.seq (.seq (.map ?_
    (h.given 0 rfl literal_respects)) (h.given 1 rfl boolean_respects))
    (h.given 2 rfl nullable_text_respects)) (h.given 3 rfl default_respects)
  intro _ _ htype _ _ hrequired _ _ hdescription _ _ hdefault
  exact h.alike rfl (.cons (.fieldOf htype (.self rfl)) <| .cons (.fieldOf hrequired (.self rfl)) <|
    .cons (.fieldOf hdescription (.self rfl)) <| .cons (.fieldOf hdefault (.self rfl)) .nil)
    .empty

lemma OutputSchema.respects : OutputSchema.read.Respects OutputSchema.shape OutputSchema.view := by
  refine .record (by decide) fun ms ns h => .seq (.map ?_ (h.given 0 rfl literal_respects))
    (h.given 1 rfl nullable_text_respects)
  intro _ _ htype _ _ hdescription
  exact h.alike rfl (.cons (.fieldOf htype (.self rfl)) <|
    .cons (.fieldOf hdescription (.self rfl)) .nil) .empty

namespace MovementAction

def shape : Shape :=
  .record [(targetField, .value), (completeField, .value), (entityTypeField, .value)]

lemma respects : read.Respects shape view := by
  refine .record (by decide) fun ms ns h => .seq (.seq (.map ?_ (h.required 0 rfl text_respects))
    (h.required 1 rfl literal_respects)) (h.given 2 rfl literal_respects.nullable)
  intro _ _ htarget _ _ hcomplete _ _ hentity
  exact h.alike rfl (.cons (.field htarget) <| .cons (.field hcomplete) <|
    .cons (.fieldOf hentity (.self rfl)) .nil) .empty

end MovementAction

namespace Movements

def shape : Shape :=
  .record [(successField, MovementAction.shape), (failureField, MovementAction.shape)]

lemma respects : read.Respects shape view := by
  refine .record (by decide) fun ms ns h => .seq (.map ?_
    (h.given 0 rfl MovementAction.respects.nullable))
    (h.given 1 rfl MovementAction.respects.nullable)
  intro _ _ hsuccess _ _ hfailure
  exact h.alike rfl (.cons (.fieldOf hsuccess (.self rfl)) <|
    .cons (.fieldOf hfailure (.self rfl)) .nil) .empty

end Movements

namespace NodeData

def shape : Shape :=
  .record [(.plain "label", .value), (.plain "worker_type", .value), (.plain "config", .value),
    (.plain "inputs", .mapping InputSchema.shape), (.plain "outputs", .mapping OutputSchema.shape),
    (movementsField, Movements.shape)]

lemma respects : read.Respects shape view := by
  refine .record (by decide) fun ms ns h => .seq (.seq (.seq (.seq (.seq (.seq (.map ?_
    (h.given 0 rfl nullable_text_respects)) (h.given 1 rfl nullable_text_respects))
    (h.given 2 rfl object_respects)) (h.given 3 rfl InputSchema.respects.mapping.nullable))
    (h.given 4 rfl OutputSchema.respects.mapping.nullable))
    (h.given 5 rfl Movements.respects.nullable)) (h.further rfl)
  intro _ _ hlabel _ _ hworker _ _ hconfig _ _ hinputs _ _ houtputs _ _ hmovements _ _ hextras
  exact h.alike rfl (.cons (.fieldOf hlabel (.self rfl)) <| .cons (.fieldOf hworker (.self rfl)) <|
    .cons (.fieldOf hconfig (.self rfl)) <| .cons (.fieldOf hinputs (.self rfl)) <|
    .cons (.fieldOf houtputs (.self rfl)) <| .cons (.fieldOf hmovements (.self rfl)) .nil) hextras

end NodeData

namespace Position

def shape : Shape := .record [(.plain "x", .value), (.plain "y", .value)]

lemma respects : read.Respects shape view := by
  refine .record (by decide) fun ms ns h => .seq (.map ?_ (h.given 0 rfl number_respects))
    (h.given 1 rfl number_respects)
  intro _ _ hx _ _ hy
  exact h.alike rfl (.cons (.fieldOf hx (.self rfl)) <| .cons (.fieldOf hy (.self rfl)) .nil)
    .empty

end Position

namespace CanvasNode

def shape : Shape :=
  .record [(.plain "id", .value), (.plain "type", .value), (.plain "position", Position.shape),
    (.plain "data", NodeData.shape), (.plain "style", .value), (.plain "width", .value),
    (.plain "height", .value), (parentField, .value)]

lemma readId_respects : readId.Respects .value .text := .of_flat ⟨nofun, nofun⟩ fun _ => rfl

lemma respects : read.Respects shape view := by
  refine .record (by decide) fun ms ns h =>
    .seq (.seq (.seq (.seq (.seq (.seq (.seq (.seq (.map ?_
    (h.required 0 rfl readId_respects)) (h.required 1 rfl enumerated_respects))
    (h.given 2 rfl Position.respects)) (h.given 3 rfl NodeData.respects))
    (h.given 4 rfl object_respects.nullable)) (h.given 5 rfl number_respects.nullable))
    (h.given 6 rfl number_respects.nullable)) (h.given 7 rfl nullable_text_respects))
    (h.further rfl)
  intro _ _ hid _ _ hkind _ _ hposition _ _ hdata _ _ hstyle _ _ hwidth _ _ hheight _ _ hparent
    _ _ hextras
  exact h.alike rfl (.cons (.field hid) <| .cons (.field hkind) <|
    .cons (.fieldOf hposition (.self rfl)) <| .cons (.fieldOf hdata (.self rfl)) <|
    .cons (.fieldOf hstyle (.self rfl)) <| .cons (.fieldOf hwidth (.self rfl)) <|
    .cons (.fieldOf hheight (.self rfl)) <| .cons (.fieldOf hparent (.self rfl)) .nil) hextras

end CanvasNode

namespace EdgeData

def shape : Shape := .record [(.plain "mapping", .mapping .value)]

lemma respects : read.Respects shape view := by
  refine .record (by decide) fun ms ns h => .seq (.map ?_
    (h.given 0 rfl text_respects.mapping.nullable)) (h.further rfl)
  intro _ _ hmapping _ _ hextras
  exact h.alike rfl (.cons (.fieldOf hmapping (.self rfl)) .nil) hextras

end EdgeData

namespace CanvasEdge

def shape : Shape :=
  .record [(.plain "id", .value), (.plain "source", .value), (.plain "target", .value),
    (.plain "data", EdgeData.shape)]

lemma respects : read.Respects shape view := by
  refine .record (by decide) fun ms ns h => .seq (.seq (.seq (.seq (.map ?_
    (h.required 0 rfl text_respects)) (h.required 1 rfl text_respects))
    (h.required 2 rfl text_respects)) (h.given 3 rfl EdgeData.respects.nullable)) (h.further rfl)
  intro _ _ hid _ _ hsource _ _ htarget _ _ hdata _ _ hextras
  exact h.alike rfl (.cons (.field hid) <| .cons (.field hsource) <| .cons (.field htarget) <|
    .cons (.fieldOf hdata (.self rfl)) .nil) hextras

end CanvasEdge

namespace Canvas

def shape : Shape :=
  .record [(.plain "nodes", .list CanvasNode.shape), (.plain "edges", .list CanvasEdge.shape)]

lemma respects : read.Respects shape view := by
  refine .record (by decide) fun ms ns h => .seq (.map ?_
    (h.given 0 rfl CanvasNode.respects.list)) (h.given 1 rfl CanvasEdge.respects.list)
  intro _ _ hnodes _ _ hedges
  exact h.alike rfl (.cons (.fieldOf hnodes (.self rfl)) <|
    .cons (.fieldOf hedges (.self rfl)) .nil) .empty

/-- The canvas comes from a document. -/
def Parsed (c : Canvas) : Prop := ∃ x : Json, x.distinct = true ∧ read x = .ok c

/-- One document in any order of members, and with any names of its fields. -/
def Respelled : Json → Json → Prop := Relation.ReflTransGen (Respells shape)

variable {x y : Json} {c d : Canvas}

namespace Parsed

lemma tidy (h : c.Parsed) : c.view.tidy = true := by
  obtain ⟨x, hx, hread⟩ := h
  obtain ⟨_, _, halike⟩ := respects x x hx (.order (.refl x) hx) c hread
  exact halike.left

lemma kept (h : c.Parsed) : (∀ n ∈ c.nodes, n.Kept) ∧ ∀ e ∈ c.edges, e.Kept := by
  obtain ⟨x, hx, hread⟩ := h
  exact kept_of_read hx hread

lemma read_stored (h : c.Parsed) : read c.stored = .ok c.written :=
  restored h.kept.1 h.kept.2

lemma written (h : c.Parsed) : c.written.Parsed :=
  ⟨c.stored, View.distinct_stored true _ h.tidy, h.read_stored⟩

end Parsed

lemma sameAs_respelled (h : Respelled x y) (hx : x.distinct = true) (hread : read x = .ok c)
    (hd : d.sameAs c = true) :
    y.distinct = true ∧ ∃ e, read y = .ok e ∧ d.sameAs e = true := by
  induction h with
  | refl => exact ⟨hx, c, hread, hd⟩
  | @tail y z _ hstep ih =>
    obtain ⟨hy, e, he, hde⟩ := ih
    obtain ⟨e', he', halike⟩ := respects y z hy hstep e he
    exact ⟨hstep.distinct hy, e', he',
      Json.equivalent_of_same halike.same (View.distinct_canonical _ halike.left)
        (View.distinct_canonical _ halike.right) hde⟩

end Canvas

end Workflow
