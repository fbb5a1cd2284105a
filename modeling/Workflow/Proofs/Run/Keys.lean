import Mathlib.Data.List.Sort
import Mathlib.Tactic.Lemma
import Std.Data.String.ToInt
import Workflow.Engine.Input
import Workflow.Proofs.Keyed
import Workflow.Store.Runs

/-! The keys of instances: they are told apart by template and index, and lead back to both. -/

namespace Workflow

namespace InstanceKey

lemma append_separator_inj {α : Type} {a b c d : List α} {x : α} (hb : x ∉ b) (hd : x ∉ d)
    (h : a ++ x :: b = c ++ x :: d) : a = c ∧ b = d := by
  rcases List.append_eq_append_iff.mp h with ⟨e, rfl, he⟩ | ⟨e, rfl, he⟩
  · cases e with
    | nil => simpa using he
    | cons y e =>
      obtain ⟨rfl, rfl⟩ := List.cons.inj he
      simp at hb
  · cases e with
    | nil => simpa using he.symm
    | cons y e =>
      obtain ⟨rfl, rfl⟩ := List.cons.inj he
      simp at hd

lemma underscore_not_mem_nat (n : Nat) : '_' ∉ n.repr.toList := by
  intro h
  rw [Nat.toList_repr] at h
  exact absurd (Nat.isDigit_of_mem_toDigits (by decide) (by decide) h) (by decide)

lemma underscore_not_mem_int (i : Int) : '_' ∉ i.repr.toList := by
  rw [Int.repr_eq_if]
  split
  · exact underscore_not_mem_nat _
  · rw [String.toList_append, List.mem_append, not_or]
    exact ⟨by decide, underscore_not_mem_nat _⟩

lemma toList_text (k : InstanceKey) :
    k.text.toList = k.template.toList ++ '_' :: k.index.repr.toList := by
  have h : k.text = k.template ++ "_" ++ k.index.repr := rfl
  simp [h]

theorem text_injective {j k : InstanceKey} (h : j.text = k.text) : j = k := by
  have hl := congrArg String.toList h
  rw [toList_text, toList_text] at hl
  obtain ⟨ht, hi⟩ := append_separator_inj (underscore_not_mem_int _) (underscore_not_mem_int _) hl
  obtain ⟨t, i⟩ := j
  obtain ⟨u, l⟩ := k
  simp only [String.toList_inj, Int.repr_inj] at ht hi
  rw [ht, hi]

@[simp] lemma text_inj {j k : InstanceKey} : j.text = k.text ↔ j = k :=
  ⟨text_injective, fun h => h ▸ rfl⟩

end InstanceKey

def indices (n : Nat) : List Int := (List.range n).map fun (i : Nat) => (i : Int)

lemma mem_indices {n : Nat} {i : Int} : i ∈ indices n ↔ ∃ j : Nat, j < n ∧ (j : Int) = i := by
  simp [indices]

namespace Run

lemma mem_place {i j : Int} {l : List Int} : j ∈ place i l ↔ j = i ∨ j ∈ l := by
  induction l with
  | nil => simp [place]
  | cons k l ih =>
    rw [place]
    split
    · simp
    · simp only [List.mem_cons, ih]
      tauto

lemma mem_ascending {i : Int} {l : List Int} : i ∈ ascending l ↔ i ∈ l := by
  induction l with
  | nil => rfl
  | cons j l ih => rw [ascending, mem_place, ih, List.mem_cons]

lemma ascending_of_pairwise {l : List Int} (h : l.Pairwise (· ≤ ·)) : ascending l = l := by
  induction h with
  | nil => rfl
  | @cons i l hi _ ih =>
    rw [ascending, ih]
    cases l with
    | nil => rfl
    | cons j l => rw [place, if_pos (hi j List.mem_cons_self)]

lemma ascending_indices (n : Nat) : ascending (indices n) = indices n := by
  refine ascending_of_pairwise ?_
  rw [indices, List.pairwise_map]
  exact List.pairwise_lt_range.imp fun h => Int.ofNat_le.mpr (Nat.le_of_lt h)

variable {r : Run} {t key : String} {n : Nat}

lemma hasInstances_iff : r.hasInstances t = true ↔ ∃ is, Keyed.find? r.instances t = some is := by
  rw [hasInstances, Keyed.has, Option.isSome_iff_exists]

lemma hasInstances_eq_false : r.hasInstances t = false ↔ Keyed.find? r.instances t = none := by
  rw [hasInstances, Keyed.has, Option.isSome_eq_false_iff, Option.isNone_iff_eq_none]

lemma instanceKeys_of_find? (h : Keyed.find? r.instances t = some (indices n)) :
    r.instanceKeys t = (List.range n).map fun (i : Nat) => ⟨t, i⟩ := by
  rw [instanceKeys, h, Option.getD_some, ascending_indices, indices, List.map_map]
  rfl

lemma instanceTexts_of_find? (h : Keyed.find? r.instances t = some (indices n)) :
    Engine.instanceTexts r t = Store.firstInstances t n := by
  rw [Engine.instanceTexts, instanceKeys_of_find? h, Store.firstInstances, List.map_map]
  rfl

lemma mem_instanceKeys {k : InstanceKey} :
    k ∈ r.instanceKeys t ↔
      k.template = t ∧ k.index ∈ (Keyed.find? r.instances t).getD [] := by
  obtain ⟨u, i⟩ := k
  simp only [instanceKeys, List.mem_map, mem_ascending, InstanceKey.mk.injEq]
  constructor
  · rintro ⟨j, hj, rfl, rfl⟩
    exact ⟨rfl, hj⟩
  · rintro ⟨rfl, hi⟩
    exact ⟨i, hi, rfl, rfl⟩

def Registered (r : Run) (k : InstanceKey) : Prop := k ∈ r.instanceKeys k.template

lemma registered_iff {k : InstanceKey} :
    r.Registered k ↔ ∃ is, Keyed.find? r.instances k.template = some is ∧ k.index ∈ is := by
  rw [Registered, mem_instanceKeys]
  cases Keyed.find? r.instances k.template <;> simp

lemma mem_instanceTexts : key ∈ Engine.instanceTexts r t ↔
    ∃ k, r.Registered k ∧ k.template = t ∧ k.text = key := by
  simp only [Engine.instanceTexts, List.mem_map]
  constructor
  · rintro ⟨k, hk, rfl⟩
    obtain ⟨rfl, _⟩ := mem_instanceKeys.mp hk
    exact ⟨k, hk, rfl, rfl⟩
  · rintro ⟨k, hk, rfl, rfl⟩
    exact ⟨k, hk, rfl⟩

lemma mem_allInstanceTexts : key ∈ r.allInstanceTexts ↔ ∃ k, r.Registered k ∧ k.text = key := by
  simp only [allInstanceTexts, List.mem_flatMap, List.mem_map]
  constructor
  · rintro ⟨e, _, k, hk, rfl⟩
    refine ⟨k, ?_, rfl⟩
    rwa [Registered, (mem_instanceKeys.mp hk).1]
  · rintro ⟨k, hk, rfl⟩
    obtain ⟨is, hf, _⟩ := registered_iff.mp hk
    exact ⟨_, Keyed.mem_of_find? hf, k, hk, rfl⟩

variable (hn : (Keyed.keys r.instances).Nodup)
include hn

lemma instance?_eq_some_iff {k : InstanceKey} :
    r.instance? key = some k ↔ r.Registered k ∧ k.text = key := by
  have hmem : ∀ k : InstanceKey,
      (k ∈ r.instances.flatMap fun e => e.2.map fun i => (⟨e.1, i⟩ : InstanceKey)) ↔
      r.Registered k := by
    rintro ⟨t, i⟩
    simp only [List.mem_flatMap, List.mem_map, InstanceKey.mk.injEq, registered_iff, Prod.exists]
    constructor
    · rintro ⟨u, is, hu, j, hj, rfl, rfl⟩
      exact ⟨is, Keyed.find?_of_mem hn hu, hj⟩
    · rintro ⟨is, hf, hi⟩
      exact ⟨t, is, Keyed.mem_of_find? hf, i, hi, rfl, rfl⟩
  constructor
  · intro h
    exact ⟨(hmem k).mp (List.mem_of_find?_eq_some h), by simpa using List.find?_some h⟩
  · rintro ⟨hk, rfl⟩
    cases hf : r.instance? k.text with
    | none => exact absurd (List.find?_eq_none.mp hf k ((hmem k).mpr hk)) (by simp)
    | some j =>
      have : j.text = k.text := by simpa using List.find?_some hf
      rw [InstanceKey.text_injective this]

lemma template_text {k : InstanceKey} (hk : r.Registered k) : r.template k.text = k.template := by
  rw [template, (instance?_eq_some_iff hn).mpr ⟨hk, rfl⟩]
  rfl

lemma template_of_unregistered (h : ∀ k, r.Registered k → k.text ≠ key) :
    r.template key = key := by
  rw [template]
  cases hf : r.instance? key with
  | none => rfl
  | some k =>
    obtain ⟨hk, ht⟩ := (instance?_eq_some_iff hn).mp hf
    exact absurd ht (h k hk)

end Run

end Workflow
