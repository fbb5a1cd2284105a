import Mathlib.Data.List.Induction
import Mathlib.Data.List.Nodup
import Mathlib.Tactic.Lemma
import Workflow.Keyed

namespace Workflow.Keyed

variable {α β : Type} {m : Keyed α} {k k' : String} {v : α}

lemma has_iff_mem_keys : has m k = true ↔ k ∈ keys m := by
  induction m with
  | nil => simp [has, keys]
  | cons e rest ih =>
    obtain ⟨j, w⟩ := e
    simp only [has, keys] at ih
    by_cases hj : j = k
    · simp [has, find?, keys, hj]
    · simp [has, find?, keys, hj, ih, Ne.symm hj]

lemma find?_eq_none_iff : find? m k = none ↔ k ∉ keys m := by
  rw [← has_iff_mem_keys, has, Option.isSome_iff_ne_none, ne_eq, not_not]

lemma mem_keys_of_find? (h : find? m k = some v) : k ∈ keys m := by
  rw [← has_iff_mem_keys, has, h]
  rfl

lemma exists_of_mem_keys (h : k ∈ keys m) : ∃ v, find? m k = some v := by
  rw [← has_iff_mem_keys, has] at h
  exact Option.isSome_iff_exists.mp h

lemma mem_of_find? (h : find? m k = some v) : (k, v) ∈ m := by
  induction m with
  | nil => simp at h
  | cons e rest ih =>
    obtain ⟨j, w⟩ := e
    by_cases hj : j = k
    · simp only [find?, hj, ↓reduceIte, Option.some.injEq] at h
      simp [hj, h]
    · simp only [find?, hj, ↓reduceIte] at h
      exact List.mem_cons_of_mem _ (ih h)

lemma find?_of_mem (hn : (keys m).Nodup) (h : (k, v) ∈ m) : find? m k = some v := by
  induction m with
  | nil => simp at h
  | cons e rest ih =>
    obtain ⟨j, w⟩ := e
    simp only [keys, List.map_cons, List.nodup_cons] at hn
    rcases List.mem_cons.mp h with he | hr
    · obtain ⟨rfl, rfl⟩ := Prod.mk.inj he
      simp [find?]
    · have hj : j ≠ k := fun he => hn.1 (he ▸ List.mem_map_of_mem (f := Prod.fst) hr)
      simpa [find?, hj] using ih hn.2 hr

lemma find?_append {n : Keyed α} : find? (m ++ n) k = (find? m k).or (find? n k) := by
  induction m with
  | nil => rfl
  | cons e rest ih =>
    obtain ⟨j, w⟩ := e
    by_cases hj : j = k <;> simp [find?, hj, ih]

lemma set_of_not_mem (h : k ∉ keys m) : set m k v = m ++ [(k, v)] := by
  induction m with
  | nil => rfl
  | cons e rest ih =>
    obtain ⟨j, w⟩ := e
    simp only [keys, List.map_cons, List.mem_cons, not_or] at h
    simp only [keys] at ih
    simp [set, Ne.symm h.1, ih h.2]

lemma mem_keys_set_iff : k' ∈ keys (set m k v) ↔ k' = k ∨ k' ∈ keys m := by
  rw [keys_set]
  split
  · rename_i hk
    exact ⟨.inr, fun h => h.elim (fun he => he ▸ hk) id⟩
  · simp [or_comm]

lemma mem_keys_merge_iff {n : Keyed α} : k ∈ keys (merge m n) ↔ k ∈ keys m ∨ k ∈ keys n := by
  induction n generalizing m with
  | nil => simp [merge, keys]
  | cons e rest ih =>
    obtain ⟨j, w⟩ := e
    have hcons : k ∈ keys ((j, w) :: rest) ↔ k = j ∨ k ∈ keys rest := by simp [keys]
    refine ih.trans ?_
    rw [mem_keys_set_iff, hcons]
    tauto

lemma merge_of_nodup {n : Keyed α} (h : (keys m ++ keys n).Nodup) : merge m n = m ++ n := by
  induction n generalizing m with
  | nil => simp [merge]
  | cons e rest ih =>
    obtain ⟨j, w⟩ := e
    have hj : j ∉ keys m := by
      intro hm
      exact (List.nodup_append.mp h).2.2 j hm j (by simp [keys]) rfl
    have hset : set m j w = m ++ [(j, w)] := set_of_not_mem hj
    have hn : (keys (m ++ [(j, w)]) ++ keys rest).Nodup := by simpa [keys] using h
    have hrest := ih hn
    simp only [merge] at hrest
    simp [merge, hset, hrest]

lemma ofPairs_of_nodup {l : List (String × α)} (h : (keys l).Nodup) : ofPairs l = l := by
  simpa [ofPairs] using merge_of_nodup (m := []) (n := l) (by simpa [keys] using h)

lemma find?_map (f : β → String) (g : β → α) (l : List β) :
    find? (l.map fun b => (f b, g b)) k = (l.find? fun b => f b = k).map g := by
  induction l with
  | nil => rfl
  | cons b l ih => by_cases hb : f b = k <;> simp [find?, hb, ih]

lemma keys_mapValues (f : α → β) (m : Keyed α) : keys (mapValues f m) = keys m := by
  simp [keys, mapValues, Function.comp_def]

lemma find?_mapValues (f : α → β) : find? (mapValues f m) k = (find? m k).map f := by
  induction m with
  | nil => rfl
  | cons e m ih =>
    rw [mapValues] at ih ⊢
    rw [List.map_cons, find?, find?, ih]
    split <;> rfl

lemma find?_without (l : List String) :
    find? (without m l) k = if k ∈ l then none else find? m k := by
  induction m with
  | nil => simp [without]
  | cons e m ih =>
    rw [without] at ih ⊢
    rw [List.filter_cons, find?]
    by_cases he : e.1 ∈ l
    · rw [if_neg (by simpa using he), ih]
      by_cases hk : e.1 = k
      · rw [if_pos (hk ▸ he), if_pos (hk ▸ he)]
      · rw [if_neg hk]
    · rw [if_pos (by simpa using he), find?, ih]
      by_cases hk : e.1 = k
      · rw [if_pos hk, if_neg (hk ▸ he), if_pos hk]
      · rw [if_neg hk, if_neg hk]

lemma merge_append (l more : List (String × α)) : merge m (l ++ more) = merge (merge m l) more :=
  List.foldl_append

lemma ofPairs_concat (l : List (String × α)) (e : String × α) :
    ofPairs (l ++ [e]) = set (ofPairs l) e.1 e.2 := merge_append l [e]

lemma find?_merge (m n : Keyed α) (k : String) :
    find? (merge m n) k = (find? (ofPairs n) k).or (find? m k) := by
  induction n using List.reverseRecOn with
  | nil => rfl
  | append_singleton n e ih =>
    rw [ofPairs_concat, merge_append, find?_set]
    change find? (set (merge m n) e.1 e.2) k = _
    rw [find?_set]
    split
    · rfl
    · exact ih

end Workflow.Keyed
