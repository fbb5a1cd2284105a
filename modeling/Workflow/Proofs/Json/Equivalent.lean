import Workflow.Json.Equivalence
import Workflow.Proofs.Json.Written
import Workflow.Proofs.Related

/-! Equality of values, which is the same for values that differ in the order of members. A value
equals itself unless it has a number that does not. -/

namespace Workflow

namespace Json

variable {x y z : Json} {xs ys : List Json} {ms ns : Keyed Json}

lemma equivalentItems_iff : equivalentItems xs ys = true ↔ xs.length = ys.length ∧
    ∀ (i : ℕ) (x y : Json), xs[i]? = some x → ys[i]? = some y → x.equivalent y = true := by
  induction xs generalizing ys with
  | nil => cases ys <;> simp [equivalentItems]
  | cons x xs ih =>
    cases ys with
    | nil => simp [equivalentItems]
    | cons y ys =>
      simp only [equivalentItems, Bool.and_eq_true, ih, List.length_cons, Nat.add_right_cancel_iff]
      constructor
      · rintro ⟨hxy, hlength, hitems⟩
        refine ⟨hlength, fun i a b ha hb => ?_⟩
        cases i with
        | zero => exact Option.some.inj ha ▸ Option.some.inj hb ▸ hxy
        | succ i => exact hitems i a b ha hb
      · rintro ⟨hlength, hitems⟩
        exact ⟨hitems 0 x y rfl rfl, hlength, fun i a b ha hb => hitems (i + 1) a b ha hb⟩

lemma includedMembers_iff : includedMembers ms ns = true ↔
    ∀ e ∈ ms, ∃ y, Keyed.find? ns e.1 = some y ∧ e.2.equivalent y = true := by
  induction ms with
  | nil => simp [includedMembers]
  | cons e ms ih =>
    rw [includedMembers, Bool.and_eq_true, ih, List.forall_mem_cons]
    cases Keyed.find? ns e.1 <;> simp

abbrev reflexive : Json → Bool := numbers fun x => x.sameValue x

lemma reflexive_of_finite (h : x.finite = true) : x.reflexive = true := by
  refine numbers_imp (fun y hy => ?_) x h
  cases y with
  | finite y => simp [Floating.sameValue, Binary64.sameValue]
  | _ => cases hy

mutual

theorem equivalent_self : ∀ x : Json, x.distinct = true → x.reflexive = true →
    x.equivalent x = true
  | .null, _, _ => rfl
  | .bool _, _, _ => by simp [equivalent, sameAmount, amount?, Amount.sameValue]
  | .int _, _, _ => by simp [equivalent, sameAmount, amount?, Amount.sameValue]
  | .float _, _, h => h
  | .str _, _, _ => by simp [equivalent]
  | .arr xs, h, hr => equivalentItems_self xs h hr
  | .obj ms, h, hr => by
    obtain ⟨hn, -⟩ := distinct_obj.mp h
    rw [distinct, Bool.and_eq_true] at h
    rw [equivalent, Bool.and_eq_true, includedMembers_iff]
    exact ⟨beq_self_eq_true _, fun e he =>
      ⟨e.2, Keyed.find?_of_mem hn he, equivalent_self_of_mem ms h.2 hr e he⟩⟩

theorem equivalentItems_self : ∀ xs : List Json, distinctItems xs = true →
    numbersItems (fun x => x.sameValue x) xs = true → equivalentItems xs xs = true
  | [], _, _ => rfl
  | x :: xs, h, hr => by
    rw [distinctItems, Bool.and_eq_true] at h
    rw [numbersItems, Bool.and_eq_true] at hr
    rw [equivalentItems, equivalent_self x h.1 hr.1, equivalentItems_self xs h.2 hr.2]
    rfl

theorem equivalent_self_of_mem : ∀ ms : List (String × Json), distinctMembers ms = true →
    numbersMembers (fun x => x.sameValue x) ms = true → ∀ e ∈ ms, e.2.equivalent e.2 = true
  | [], _, _ => nofun
  | (k, x) :: ms, h, hr => by
    rw [distinctMembers, Bool.and_eq_true] at h
    rw [numbersMembers, Bool.and_eq_true] at hr
    exact List.forall_mem_cons.mpr
      ⟨equivalent_self x h.1 hr.1, equivalent_self_of_mem ms h.2 hr.2⟩

end

section Same

lemma Same.of_arr (h : Same (.arr xs) y) : ∃ ys, y = .arr ys ∧ xs.length = ys.length ∧
    ∀ (i : ℕ) (x y : Json), xs[i]? = some x → ys[i]? = some y → Same x y := by
  cases h with
  | refl =>
    exact ⟨xs, rfl, rfl, fun i a b ha hb => Option.some.inj (ha.symm.trans hb) ▸ .refl a⟩
  | arr hl h => exact ⟨_, rfl, hl, h⟩

lemma Same.of_obj (h : Same (.obj ms) y) : ∃ ns, y = .obj ns ∧ Keyed.Same Same ms ns := by
  cases h with
  | refl => exact ⟨ms, rfl, .refl .refl ms⟩
  | obj hk h => exact ⟨_, rfl, Keyed.same_iff.mpr ⟨hk, h⟩⟩

lemma same_arr (h : List.Forall₂ Same xs ys) : Same (.arr xs) (.arr ys) := by
  obtain ⟨hlength, hitems⟩ := List.forall₂_iff_get.mp h
  refine .arr hlength fun i x y hx hy => ?_
  obtain ⟨hi, rfl⟩ := List.getElem?_eq_some_iff.mp hx
  obtain ⟨hi', rfl⟩ := List.getElem?_eq_some_iff.mp hy
  exact hitems i hi hi'

lemma same_obj (h : Keyed.Same Same ms ns) : Same (.obj ms) (.obj ns) :=
  .obj (Keyed.same_iff.mp h).1 (Keyed.same_iff.mp h).2

lemma Same.isNull_eq (h : Same x y) : x.isNull = y.isNull := by
  cases h <;> rfl

lemma Same.written (h : Same x y) : Same x.written y.written := by
  induction h with
  | refl x => exact .refl _
  | @arr xs ys hl _ ih =>
    rw [Json.written, Json.written, writtenItems_eq, writtenItems_eq]
    refine .arr (by simpa using hl) fun i a b ha hb => ?_
    rw [List.getElem?_map, Option.map_eq_some_iff] at ha hb
    obtain ⟨x, hx, rfl⟩ := ha
    obtain ⟨y, hy, rfl⟩ := hb
    exact ih i x y hx hy
  | @obj ms ns hk _ ih =>
    rw [Json.written, Json.written, writtenMembers_eq, writtenMembers_eq]
    refine .obj (fun k => ?_) fun k a b ha hb => ?_
    · simpa [Keyed.has, Keyed.find?_mapValues] using hk k
    · rw [Keyed.find?_mapValues, Option.map_eq_some_iff] at ha hb
      obtain ⟨x, hx, rfl⟩ := ha
      obtain ⟨y, hy, rfl⟩ := hb
      exact ih k x y hx hy

lemma same_writtenMembers (h : Keyed.Same Same ms ns) :
    Keyed.Same Same (writtenMembers ms) (writtenMembers ns) := by
  intro k
  rw [writtenMembers_eq, writtenMembers_eq, Keyed.find?_mapValues, Keyed.find?_mapValues]
  exact rel_map (h k) fun _ _ hxy => hxy.written

lemma length_eq_of_same (hms : (Keyed.keys ms).Nodup) (hns : (Keyed.keys ns).Nodup)
    (h : ∀ k, Keyed.has ms k = Keyed.has ns k) : ms.length = ns.length := by
  have hperm : (Keyed.keys ms).Perm (Keyed.keys ns) :=
    (List.perm_ext_iff_of_nodup hms hns).mpr fun k => by
      rw [← Keyed.has_iff_mem_keys, ← Keyed.has_iff_mem_keys, h k]
  simpa [Keyed.keys] using hperm.length_eq

lemma equivalent_of_same (h : Same y z) (hy : y.distinct = true) (hz : z.distinct = true)
    (hx : x.equivalent y = true) : x.equivalent z = true := by
  induction h generalizing x with
  | refl => exact hx
  | @arr ys zs hl _ ih =>
    cases x with
    | arr xs =>
      rw [equivalent, equivalentItems_iff] at hx ⊢
      obtain ⟨hlength, hitems⟩ := hx
      refine ⟨hlength.trans hl, fun i a c ha hc => ?_⟩
      have hi : i < ys.length := hl ▸ (List.getElem?_eq_some_iff.mp hc).1
      have hb : ys[i]? = some ys[i] := List.getElem?_eq_getElem hi
      exact ih i _ c hb hc (distinct_arr.mp hy _ (List.mem_of_getElem? hb))
        (distinct_arr.mp hz _ (List.mem_of_getElem? hc)) (hitems i a _ ha hb)
    | _ => simp [equivalent, sameAmount, amount?] at hx
  | @obj ms ns hk _ ih =>
    cases x with
    | obj ls =>
      obtain ⟨hms, hyms⟩ := distinct_obj.mp hy
      obtain ⟨hns, hzns⟩ := distinct_obj.mp hz
      rw [equivalent, Bool.and_eq_true, includedMembers_iff, beq_iff_eq] at hx ⊢
      refine ⟨hx.1.trans (length_eq_of_same hms hns hk), fun e he => ?_⟩
      obtain ⟨b, hb, hequiv⟩ := hx.2 e he
      have hhas := hk e.1
      rw [Keyed.has, hb] at hhas
      obtain ⟨c, hc⟩ := Option.isSome_iff_exists.mp hhas.symm
      exact ⟨c, hc, ih e.1 b c hb hc (hyms _ (Keyed.mem_of_find? hb))
        (hzns _ (Keyed.mem_of_find? hc)) hequiv⟩
    | _ => simp [equivalent, sameAmount, amount?] at hx

end Same

end Json

end Workflow
