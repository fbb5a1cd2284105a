import Mathlib.Data.List.Perm.Subperm
import Workflow.Proofs.Json.Equivalent

/-! Values that stand for each other. They are the same but for the order of members if they are of
one kind at every depth, and zeros have one sign. -/

namespace Workflow

lemma Binary64.isZero_eq_of_equalsInt {x : Binary64} {n : Int} (h : x.equalsInt n = true) :
    x.isZero = (n == 0) := by
  rw [equalsInt, Bool.and_eq_true, beq_iff_eq] at h
  obtain ⟨hwhole, rfl⟩ := h
  have hexponent : ¬ x.exponent < 0 := by simpa [isWhole] using hwhole
  have hzero : x.mantissa * twoTo x.exponent.toNat = 0 ↔ x.mantissa = 0 := by
    rw [Nat.mul_eq_zero, or_iff_left]
    exact Nat.pos_iff_ne_zero.mp (Nat.pow_pos Nat.two_pos)
  rw [Bool.eq_iff_iff, isZero, beq_iff_eq, beq_iff_eq, ← hzero]
  simp only [truncate, ratio, if_neg hexponent, Nat.div_one]
  split <;> omega

namespace Floating

variable {x y : Floating}

lemma isZero_eq_of_equalsInt {n : Int} (h : x.equalsInt n = true) : x.isZero = (n == 0) := by
  cases x with
  | finite x => exact Binary64.isZero_eq_of_equalsInt h
  | _ => cases h

lemma isZero_eq_of_sameValue (h : x.sameValue y = true) : x.isZero = y.isZero := by
  cases x with
  | finite x =>
    cases y with
    | finite y =>
      rw [sameValue, Binary64.sameValue, Bool.or_eq_true, Bool.and_eq_true, beq_iff_eq] at h
      rcases h with rfl | ⟨hx, hy⟩
      · rfl
      · exact hx.trans hy.symm
    | _ => cases h
  | _ => cases y <;> first | rfl | cases h

lemma eq_of_sameValue (h : x.sameValue y = true) (hz : x.isZero = true → x = y) : x = y := by
  cases x with
  | finite x =>
    cases y with
    | finite y =>
      rw [sameValue, Binary64.sameValue, Bool.or_eq_true, Bool.and_eq_true, beq_iff_eq] at h
      rcases h with rfl | ⟨hx, -⟩
      · rfl
      · exact hz hx
    | _ => cases h
  | infinite m =>
    cases y with
    | infinite n => exact congrArg infinite (beq_iff_eq.mp h)
    | _ => cases h
  | nan m =>
    cases y with
    | nan n =>
      obtain ⟨rfl, rfl⟩ := Bool.and_eq_true_iff.mp h
      rfl
    | _ => cases h

end Floating

namespace Json

abbrev Matches (x y : Json) : Prop := x.equivalent y = true

variable {x y : Json} {xs ys : List Json} {ms ns : Keyed Json}

lemma isNull_iff : x.isNull = true ↔ x = .null := by cases x <;> simp [isNull]

lemma eq_of_matches_str {s t : String} (h : Matches (.str s) (.str t)) : s = t := by
  simpa [Matches, equivalent] using h

lemma eq_of_matches_bool {a b : Bool} (h : Matches (.bool a) (.bool b)) : a = b := by
  revert h
  cases a <;> cases b <;> decide

lemma eq_of_matches_int {m n : Int} (h : Matches (.int m) (.int n)) : m = n := by
  simpa [Matches, equivalent, sameAmount, amount?, Amount.sameValue] using h

lemma same_of_matches (hms : (Keyed.keys ms).Nodup) (h : Matches (.obj ms) (.obj ns)) :
    Keyed.Same Matches ms ns := by
  rw [Matches, equivalent, Bool.and_eq_true, beq_iff_eq, includedMembers_iff] at h
  obtain ⟨hlength, hincluded⟩ := h
  have hsub : Keyed.keys ms ⊆ Keyed.keys ns := by
    intro k hk
    obtain ⟨e, he, rfl⟩ := List.mem_map.mp hk
    obtain ⟨y, hy, -⟩ := hincluded e he
    exact Keyed.mem_keys_of_find? hy
  have hperm : (Keyed.keys ms).Perm (Keyed.keys ns) :=
    (List.subperm_of_subset hms hsub).perm_of_length_le (by simp [Keyed.keys, hlength])
  intro k
  cases hk : Keyed.find? ms k with
  | none =>
    have hnone : Keyed.find? ns k = none := by
      rw [Keyed.find?_eq_none_iff, ← hperm.mem_iff, ← Keyed.find?_eq_none_iff]
      exact hk
    rw [hnone]
    exact .none
  | some x =>
    obtain ⟨y, hy, hxy⟩ := hincluded (k, x) (Keyed.mem_of_find? hk)
    exact hy ▸ .some hxy

def Amount.isZero : Amount → Bool
  | .int n => n == 0
  | .float x => x.isZero

lemma Amount.isZero_eq_of_sameValue {a b : Amount} (h : a.sameValue b = true) :
    a.isZero = b.isZero := by
  cases a with
  | int m =>
    cases b with
    | int n => rw [beq_iff_eq.mp h]
    | float y => exact (Floating.isZero_eq_of_equalsInt h).symm
  | float x =>
    cases b with
    | int n => exact Floating.isZero_eq_of_equalsInt h
    | float y => exact Floating.isZero_eq_of_sameValue h

lemma isFalsy_of_amount {a : Amount} (h : x.amount? = some a) : x.isFalsy = a.isZero := by
  cases x with
  | bool b =>
    obtain rfl := Option.some.inj h
    cases b <;> rfl
  | int | float =>
    obtain rfl := Option.some.inj h
    rfl
  | _ => cases h

lemma isFalsy_eq_of_matches (h : Matches x y) : x.isFalsy = y.isFalsy := by
  have hamount : sameAmount x y = true → x.isFalsy = y.isFalsy := by
    intro h
    rw [sameAmount] at h
    split at h
    · rename_i a b ha hb
      rw [isFalsy_of_amount ha, isFalsy_of_amount hb, Amount.isZero_eq_of_sameValue h]
    · cases h
  cases x with
  | null => cases y <;> first | rfl | cases h
  | str s =>
    cases y with
    | str t => rw [eq_of_matches_str h]
    | _ => cases h
  | arr xs =>
    cases y with
    | arr ys =>
      have hlength := (equivalentItems_iff.mp h).1
      rw [isFalsy, isFalsy, Bool.eq_iff_iff, List.isEmpty_iff_length_eq_zero,
        List.isEmpty_iff_length_eq_zero, hlength]
    | _ => cases h
  | obj ms =>
    cases y with
    | obj ns =>
      have hlength := beq_iff_eq.mp (Bool.and_eq_true_iff.mp h).1
      rw [isFalsy, isFalsy, Bool.eq_iff_iff, List.isEmpty_iff_length_eq_zero,
        List.isEmpty_iff_length_eq_zero, hlength]
    | _ => cases h
  | _ => exact hamount h

inductive SameKinds : Json → Json → Prop
  | null : SameKinds .null .null
  | bool (a b : Bool) : SameKinds (.bool a) (.bool b)
  | int (m n : Int) : SameKinds (.int m) (.int n)
  | float {x y : Floating} (h : x.isZero = true → x = y) : SameKinds (.float x) (.float y)
  | str (s t : String) : SameKinds (.str s) (.str t)
  | arr {xs ys : List Json}
      (h : ∀ (i : ℕ) (x y : Json), xs[i]? = some x → ys[i]? = some y → SameKinds x y) :
      SameKinds (.arr xs) (.arr ys)
  | obj {ms ns : Keyed Json} (h : ∀ (k : String) (x y : Json), Keyed.find? ms k = some x →
      Keyed.find? ns k = some y → SameKinds x y) : SameKinds (.obj ms) (.obj ns)

theorem SameKinds.refl : ∀ x : Json, SameKinds x x
  | .null => .null
  | .bool b => .bool b b
  | .int n => .int n n
  | .float _ => .float fun _ => rfl
  | .str s => .str s s
  | .arr xs => .arr fun i x y hx hy => by
    obtain rfl := Option.some.inj (hx.symm.trans hy)
    have := List.sizeOf_lt_of_mem (List.mem_of_getElem? hx)
    exact refl x
  | .obj ms => .obj fun k x y hx hy => by
    obtain rfl := Option.some.inj (hx.symm.trans hy)
    have := List.sizeOf_lt_of_mem (Keyed.mem_of_find? hx)
    exact refl x
termination_by x => sizeOf x
decreasing_by all_goals simp_all; omega

lemma SameKinds.isNull_eq (h : SameKinds x y) : x.isNull = y.isNull := by
  cases h <;> rfl

lemma Same.sameKinds (h : Same x y) : SameKinds x y := by
  induction h with
  | refl x => exact .refl x
  | arr _ _ ih => exact .arr ih
  | obj _ _ ih => exact .obj ih

lemma SameKinds.same (h : SameKinds x y) (hx : x.distinct = true) (hm : Matches x y) :
    Same x y := by
  -- What the comparison does not tell apart is the same if kinds and zeros are.
  induction h with
  | null => exact .refl _
  | bool a b => exact eq_of_matches_bool hm ▸ .refl _
  | int m n => exact eq_of_matches_int hm ▸ .refl _
  | str s t => exact eq_of_matches_str hm ▸ .refl _
  | @float x y hz => exact Floating.eq_of_sameValue (x := x) (y := y) hm hz ▸ .refl _
  | @arr xs ys _ ih =>
    rw [Matches, equivalent, equivalentItems_iff] at hm
    exact .arr hm.1 fun i x y hx' hy =>
      ih i x y hx' hy (distinct_arr.mp hx x (List.mem_of_getElem? hx')) (hm.2 i x y hx' hy)
  | @obj ms ns _ ih =>
    obtain ⟨hkeys, hms⟩ := distinct_obj.mp hx
    obtain ⟨hhas, hmembers⟩ := Keyed.same_iff.mp (same_of_matches hkeys hm)
    exact .obj hhas fun k x y hx' hy =>
      ih k x y hx' hy (hms _ (Keyed.mem_of_find? hx')) (hmembers k x y hx' hy)

lemma Same.finite (h : Same x y) (hy : y.distinct = true) (hx : x.finite = true) :
    y.finite = true := by
  induction h with
  | refl => exact hx
  | @arr xs ys hl _ ih =>
    refine numbersItems_iff.mpr fun y hmem => ?_
    obtain ⟨i, hi, rfl⟩ := List.mem_iff_getElem.mp hmem
    have hi' : i < xs.length := hl ▸ hi
    exact ih i _ _ (List.getElem?_eq_getElem hi') (List.getElem?_eq_getElem hi)
      (distinct_arr.mp hy _ hmem) (numbersItems_iff.mp hx _ (List.getElem_mem hi'))
  | @obj ms ns hk _ ih =>
    obtain ⟨hkeys, hns⟩ := distinct_obj.mp hy
    refine numbersMembers_iff.mpr fun e he => ?_
    have hfind := Keyed.find?_of_mem hkeys he
    have hhas := hk e.1
    rw [Keyed.has, Keyed.has, hfind] at hhas
    obtain ⟨a, ha⟩ := Option.isSome_iff_exists.mp hhas
    exact ih e.1 a e.2 ha hfind (hns e he) (numbersMembers_iff.mp hx _ (Keyed.mem_of_find? ha))

end Json

end Workflow
