import Workflow.Proofs.Document.Restored
import Workflow.Proofs.Json.Equivalent

/-! Documents that differ in the order of members, or in which of its two names a field is given
under. Readers find the same fields in them, and beyond these the same members. -/

namespace Workflow

inductive Shape where
  | value
  | list (item : Shape)
  | mapping (entry : Shape)
  | record (fields : List (FieldName × Shape))

def FieldName.GivenUnder (f : FieldName) (k : String) (others : Keyed Json) : Prop :=
  k = f.label ∨ k = f.name ∧ f.label ∉ Keyed.keys others

inductive Respells : Shape → Json → Json → Prop
  | order {s : Shape} {x y : Json} (h : Json.Same x y) (hy : y.distinct = true) : Respells s x y
  | item {s : Shape} {before after : List Json} {x y : Json} (h : Respells s x y) :
      Respells (.list s) (.arr (before ++ x :: after)) (.arr (before ++ y :: after))
  | entry {s : Shape} {before after : Keyed Json} {k : String} {x y : Json} (h : Respells s x y) :
      Respells (.mapping s) (.obj (before ++ (k, x) :: after)) (.obj (before ++ (k, y) :: after))
  | field {fields : List (FieldName × Shape)} {f : FieldName} {s : Shape}
      {before after : Keyed Json} {k k' : String} {x y : Json} (hf : (f, s) ∈ fields)
      (hk : f.GivenUnder k (before ++ after)) (hk' : f.GivenUnder k' (before ++ after))
      (hnew : k' ∉ Keyed.keys (before ++ after)) (h : Respells s x y) :
      Respells (.record fields) (.obj (before ++ (k, x) :: after))
        (.obj (before ++ (k', y) :: after))

variable {x y : Json} {s : Shape} {fields : List (FieldName × Shape)} {f g : FieldName}
  {ms ns others before after : Keyed Json} {names : List FieldName} {j k : String}

def Keyed.Adds (ms : Keyed Json) (k : String) (x : Json) (others : Keyed Json) : Prop :=
  k ∉ Keyed.keys others ∧
    ∀ j, Keyed.find? ms j = if k = j then some x else Keyed.find? others j

lemma Keyed.adds_middle (h : (Keyed.keys (before ++ (k, x) :: after)).Nodup) :
    Keyed.Adds (before ++ (k, x) :: after) k x (before ++ after) := by
  simp only [Keyed.keys, List.map_append, List.map_cons] at h
  rw [List.nodup_middle, List.nodup_cons, List.mem_append, not_or] at h
  obtain ⟨⟨hbefore, hafter⟩, -⟩ := h
  refine ⟨?_, fun j => ?_⟩
  · rw [Keyed.keys, List.map_append, List.mem_append, not_or]
    exact ⟨hbefore, hafter⟩
  · rw [Keyed.find?_append, Keyed.find?_append, Keyed.find?]
    split
    · rename_i hj
      rw [Keyed.find?_eq_none_iff.mpr (hj ▸ hbefore), Option.none_or]
    · rfl

lemma Reader.find?_extras : Keyed.find? (Reader.extras ms names) j =
    if ∃ f ∈ names, f.taken ms = j then none else Keyed.find? ms j := by
  rw [Reader.extras, Keyed.find?_without]
  simp only [List.mem_map]

namespace FieldName.GivenUnder

variable (h : f.GivenUnder k others) (hms : Keyed.Adds ms k x others)
include h

lemma ne_of_apart (ha : f.Apart g) : k ≠ g.label ∧ k ≠ g.name := by
  obtain ⟨hll, hln, hnl, hnn⟩ := ha
  rcases h with rfl | ⟨rfl, -⟩
  · exact ⟨hll, hln⟩
  · exact ⟨hnl, hnn⟩

include hms

lemma find?_eq : f.find? ms = some x := by
  rw [FieldName.find?_eq_or, hms.2, hms.2]
  rcases h with rfl | ⟨rfl, hlabel⟩
  · simp
  · by_cases hsame : f.name = f.label
    · simp [hsame]
    · simp [hsame, Keyed.find?_eq_none_iff.mpr hlabel]

lemma taken_eq : f.taken ms = k := by
  rw [FieldName.taken, Keyed.has, hms.2]
  rcases h with rfl | ⟨rfl, hlabel⟩
  · simp
  · by_cases hsame : f.name = f.label
    · simp [hsame]
    · simp [hsame, Keyed.find?_eq_none_iff.mpr hlabel]

lemma find?_of_apart (ha : f.Apart g) : g.find? ms = g.find? others := by
  obtain ⟨hlabel, hname⟩ := h.ne_of_apart ha
  simp [FieldName.find?_eq_or, hms.2, hlabel, hname]

lemma taken_of_apart (ha : f.Apart g) : g.taken ms = g.taken others := by
  rw [FieldName.taken, Keyed.has, hms.2, if_neg (h.ne_of_apart ha).1]
  rfl

lemma find?_extras (hf : f ∈ names) (ha : ∀ g ∈ names, g ≠ f → f.Apart g) :
    Keyed.find? (Reader.extras ms names) j =
      Keyed.find? (Reader.extras others (names.filter (· ≠ f))) j := by
  rw [Reader.find?_extras, Reader.find?_extras, hms.2]
  by_cases hj : k = j
  · rw [if_pos ⟨f, hf, (h.taken_eq hms).trans hj⟩, Keyed.find?_eq_none_iff.mpr (hj ▸ hms.1),
      ite_self]
  · have htaken : (∃ g ∈ names, g.taken ms = j) ↔
        ∃ g ∈ names.filter (· ≠ f), g.taken others = j := by
      simp only [List.mem_filter, decide_eq_true_eq]
      constructor
      · rintro ⟨g, hg, rfl⟩
        have hne : g ≠ f := fun he => hj (he ▸ (h.taken_eq hms).symm)
        exact ⟨g, ⟨hg, hne⟩, (h.taken_of_apart hms (ha g hg hne)).symm⟩
      · rintro ⟨g, ⟨hg, hne⟩, rfl⟩
        exact ⟨g, hg, h.taken_of_apart hms (ha g hg hne)⟩
    rw [if_neg hj, ite_cond_congr (by rw [htaken])]

end FieldName.GivenUnder

structure Accords (fields : List (FieldName × Shape)) (ms ns : Keyed Json) : Prop where
  apart : (fields.map Prod.fst).Pairwise FieldName.Apart
  left : (Json.obj ms).distinct = true
  right : (Json.obj ns).distinct = true
  field : ∀ e ∈ fields, Option.Rel (Respells e.2) (e.1.find? ms) (e.1.find? ns)
  extras : Keyed.Same Json.Same (Reader.extras ms (fields.map Prod.fst))
    (Reader.extras ns (fields.map Prod.fst))

lemma FieldName.distinct_of_find? (h : (Json.obj ms).distinct = true) (hf : f.find? ms = some x) :
    x.distinct = true := by
  obtain ⟨k, hk⟩ := Reader.exists_of_find? hf
  exact (Json.distinct_obj.mp h).2 _ hk

namespace Respells

lemma distinct (h : Respells s x y) (hx : x.distinct = true) : y.distinct = true := by
  induction h with
  | order _ hy => exact hy
  | item _ ih =>
    simp only [Json.distinct_arr, List.forall_mem_append, List.forall_mem_cons] at hx ⊢
    exact ⟨hx.1, ih hx.2.1, hx.2.2⟩
  | entry _ ih =>
    simp only [Json.distinct_obj, List.forall_mem_append, List.forall_mem_cons] at hx ⊢
    exact ⟨by simpa [Keyed.keys] using hx.1, hx.2.1, ih hx.2.2.1, hx.2.2.2⟩
  | field _ _ _ hnew _ ih =>
    simp only [Json.distinct_obj, List.forall_mem_append, List.forall_mem_cons] at hx ⊢
    refine ⟨?_, hx.2.1, ih hx.2.2.1, hx.2.2.2⟩
    have hn := hx.1
    simp only [Keyed.keys, List.map_append, List.map_cons] at hn hnew ⊢
    rw [List.nodup_middle, List.nodup_cons] at hn ⊢
    exact ⟨hnew, hn.2⟩

lemma of_perm (h : ms.Perm ns) (hms : (Json.obj ms).distinct = true) :
    Respells s (.obj ms) (.obj ns) := by
  obtain ⟨hn, hvalues⟩ := Json.distinct_obj.mp hms
  have hn' : (Keyed.keys ns).Nodup := ((h.map Prod.fst).nodup_iff).mp hn
  refine .order (Json.same_obj fun k => ?_)
    (Json.distinct_obj.mpr ⟨hn', fun e he => hvalues e (h.mem_iff.mpr he)⟩)
  have hfind : Keyed.find? ns k = Keyed.find? ms k := by
    cases hk : Keyed.find? ms k with
    | none =>
      rw [Keyed.find?_eq_none_iff] at hk ⊢
      exact fun hmem => hk ((h.map Prod.fst).mem_iff.mpr hmem)
    | some x => exact Keyed.find?_of_mem hn' (h.mem_iff.mp (Keyed.mem_of_find? hk))
  rw [hfind]
  exact rel_refl .refl _

lemma isNull_eq (h : Respells s x y) : x.isNull = y.isNull := by
  cases h with
  | order h _ => exact h.isNull_eq
  | _ => rfl

lemma of_rel {a b : Option Json} (h : Option.Rel Json.Same a b)
    (hb : ∀ y, b = some y → y.distinct = true) : Option.Rel (Respells s) a b := by
  cases h with
  | none => exact .none
  | some h => exact .some (.order h (hb _ rfl))

lemma accords_of_order (ha : (fields.map Prod.fst).Pairwise FieldName.Apart)
    (h : Keyed.Same Json.Same ms ns) (hms : (Json.obj ms).distinct = true)
    (hns : (Json.obj ns).distinct = true) : Accords fields ms ns where
  apart := ha
  left := hms
  right := hns
  field e _ := by
    refine of_rel ?_ fun y => e.1.distinct_of_find? hns
    rw [FieldName.find?_eq_or, FieldName.find?_eq_or]
    exact rel_or (h _) (h _)
  extras j := by
    have htaken : ∀ f : FieldName, f.taken ns = f.taken ms := fun f => by
      rw [FieldName.taken, FieldName.taken, (Keyed.same_iff.mp h).1]
    rw [Reader.find?_extras, Reader.find?_extras]
    simp only [htaken]
    split
    · exact .none
    · exact h j

lemma accords (h : Respells (.record fields) (.obj ms) y) (hms : (Json.obj ms).distinct = true)
    (ha : (fields.map Prod.fst).Pairwise FieldName.Apart) :
    ∃ ns, y = .obj ns ∧ Accords fields ms ns := by
  have hy := h.distinct hms
  cases h with
  | order h _ =>
    obtain ⟨ns, rfl, hsame⟩ := h.of_obj
    exact ⟨ns, rfl, accords_of_order ha hsame hms hy⟩
  | @field _ f s before after k k' x y hf hk hk' hnew h =>
    have hsymm : Std.Symm FieldName.Apart := ⟨fun _ _ => FieldName.Apart.symm⟩
    have hms' := Keyed.adds_middle (Json.distinct_obj.mp hms).1
    have hns' := Keyed.adds_middle (Json.distinct_obj.mp hy).1
    refine ⟨_, rfl, ha, hms, hy, fun e he => ?_, fun j => ?_⟩
    · by_cases hef : e = (f, s)
      · subst hef
        rw [hk.find?_eq hms', hk'.find?_eq hns']
        exact .some h
      · have hapart : f.Apart e.1 := (List.pairwise_map.mp ha).forall hf he (Ne.symm hef)
        have hfind := hk.find?_of_apart hms' hapart
        rw [hk'.find?_of_apart hns' hapart, hfind]
        exact of_rel (rel_refl .refl _) fun v hv => e.1.distinct_of_find? hms (hfind.trans hv)
    · have hall : ∀ g ∈ fields.map Prod.fst, g ≠ f → f.Apart g := fun g hg hne =>
        ha.forall (List.mem_map_of_mem (f := Prod.fst) hf) hg hne.symm
      rw [hk.find?_extras hms' (List.mem_map_of_mem (f := Prod.fst) hf) hall,
        hk'.find?_extras hns' (List.mem_map_of_mem (f := Prod.fst) hf) hall]
      exact rel_refl .refl _

lemma items {xs : List Json} (h : Respells (.list s) (.arr xs) y)
    (hxs : (Json.arr xs).distinct = true) :
    ∃ ys, y = .arr ys ∧ List.Forall₂ (Respells s) xs ys := by
  have hy := h.distinct hxs
  cases h with
  | order h _ =>
    obtain ⟨ys, rfl, hl, hitems⟩ := h.of_arr
    refine ⟨ys, rfl, List.forall₂_iff_get.mpr ⟨hl, fun i hi hi' => ?_⟩⟩
    exact .order (hitems i _ _ (List.getElem?_eq_getElem hi) (List.getElem?_eq_getElem hi'))
      (Json.distinct_arr.mp hy _ (List.getElem_mem hi'))
  | item h =>
    simp only [Json.distinct_arr, List.forall_mem_append, List.forall_mem_cons] at hxs
    have hself : ∀ {zs : List Json}, (∀ z ∈ zs, z.distinct = true) →
        List.Forall₂ (Respells s) zs zs := fun hzs =>
      List.forall₂_same.mpr fun z hz => .order (.refl z) (hzs z hz)
    exact ⟨_, rfl, List.rel_append (hself hxs.1) (.cons h (hself hxs.2.2))⟩

lemma entries (h : Respells (.mapping s) (.obj ms) y) (hms : (Json.obj ms).distinct = true) :
    ∃ ns, y = .obj ns ∧ Keyed.Same (Respells s) ms ns := by
  have hy := h.distinct hms
  have hvalue : ∀ {ls : Keyed Json} {k z}, (Json.obj ls).distinct = true →
      Keyed.find? ls k = some z → z.distinct = true := fun hls hz =>
    (Json.distinct_obj.mp hls).2 _ (Keyed.mem_of_find? hz)
  cases h with
  | order h _ =>
    obtain ⟨ns, rfl, hsame⟩ := h.of_obj
    exact ⟨ns, rfl, fun k => of_rel (hsame k) fun _ => hvalue hy⟩
  | @entry _ before after k x y h =>
    refine ⟨_, rfl, fun j => ?_⟩
    have hj := (Keyed.adds_middle (Json.distinct_obj.mp hms).1).2 j
    rw [(Keyed.adds_middle (Json.distinct_obj.mp hy).1).2]
    split
    · rename_i hk
      rw [hj, if_pos hk]
      exact .some h
    · rename_i hk
      rw [if_neg hk] at hj
      rw [hj]
      exact of_rel (rel_refl .refl _) fun _ hz => hvalue hms (hj.trans hz)

end Respells

end Workflow
