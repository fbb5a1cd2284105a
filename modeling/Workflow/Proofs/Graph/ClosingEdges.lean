import Mathlib.Data.List.Chain
import Mathlib.Data.List.Nodup
import Mathlib.Logic.Relation
import Mathlib.Order.WellFounded
import Mathlib.Tactic.Lemma
import Workflow.Graph.CycleSearch

/-! What a search for cycles finds: each cycle is one, and without the edges that close them no
cycle is left. -/

namespace Workflow.CycleSearch

def steps : List String → List (String × String)
  | a :: b :: rest => (a, b) :: steps (b :: rest)
  | _ => []

def closings (found : List (List String)) : List (String × String) :=
  found.filterMap fun cycle => (steps cycle).getLast?

def Loop (next : String → List String) (cycle : List String) : Prop :=
  ∃ id inner, cycle = id :: (inner ++ [id]) ∧ (id :: inner).Nodup ∧
    cycle.IsChain fun a b => b ∈ next a

variable {next : String → List String} {unseen path waiting : List String} {k n : String}

lemma steps_concat (xs : List String) (a b : String) :
    steps (xs ++ [a, b]) = steps (xs ++ [a]) ++ [(a, b)] := by
  induction xs with
  | nil => rfl
  | cons x xs ih => cases xs <;> simp_all [steps]

lemma isChain_iff_steps {R : String → String → Prop} {xs : List String} :
    xs.IsChain R ↔ ∀ e ∈ steps xs, R e.1 e.2 := by
  fun_induction steps xs with
  | case1 a b rest ih => simp [ih]
  | case2 xs h =>
    match xs, h with
    | [], _ => simp
    | [a], _ => simp
    | a :: b :: rest, h => exact (h a b rest rfl).elim

lemma takeWhile_prefix_of_mem (h : n ∈ path) :
    path.takeWhile (· ≠ n) ++ [n] <+: path := by
  induction path with
  | nil => cases h
  | cons a path ih =>
    by_cases ha : a = n
    · simp [ha]
    · have hn : n ∈ path := (List.mem_cons.mp h).resolve_left (Ne.symm ha)
      simpa [ha] using ih hn

lemma loop_of_back (hchain : (k :: path).IsChain fun b a => b ∈ next a)
    (hnodup : (k :: path).Nodup) (hn : n ∈ k :: path) (hk : n ∈ next k) :
    Loop next (n :: (((k :: path).takeWhile (· ≠ n)).reverse ++ [n])) := by
  have hpre := takeWhile_prefix_of_mem hn
  refine ⟨n, _, rfl, ?_, ?_⟩
  · have hback := hnodup.sublist hpre.sublist
    simpa using List.nodup_reverse.mpr hback
  · have hback : (n :: ((k :: path).takeWhile (· ≠ n)).reverse).IsChain fun a b => b ∈ next a := by
      have hpart := hchain.prefix hpre
      simpa using List.isChain_reverse.mpr hpart
    rw [← List.cons_append, List.isChain_append]
    refine ⟨hback, by simp, ?_⟩
    intro a ha b hb
    have hb : n = b := by simpa using hb
    have ha : a = k := by
      by_cases hkn : k = n
      · simpa [hkn, eq_comm] using ha
      · simpa [hkn, List.getLast?_cons, eq_comm] using ha
    exact hb ▸ ha ▸ hk

lemma explore_loop (hchain : path.IsChain fun b a => b ∈ next a) (hnodup : path.Nodup)
    (hw : ∀ k ∈ path.head?, ∀ n ∈ waiting, n ∈ next k) :
    ∀ cycle ∈ (explore next unseen path waiting).cycles, Loop next cycle := by
  fun_induction explore next unseen path waiting with
  | case1 => simp
  | case2 unseen path n waiting hp r ih =>
    have hrest := ih hchain hnodup fun k hk m hm => hw k hk m (List.mem_cons_of_mem _ hm)
    refine List.forall_mem_cons.mpr ⟨?_, hrest⟩
    cases path with
    | nil => simp at hp
    | cons k path =>
      exact loop_of_back hchain hnodup (by simpa using hp) (hw k rfl n List.mem_cons_self)
  | case3 unseen path n waiting hp hu below after hle ih₂ ih₁ =>
    have hn : n ∉ path := by simpa using hp
    have hbelow : ∀ cycle ∈ below.cycles, Loop next cycle := by
      refine ih₂ ?_ (List.nodup_cons.mpr ⟨hn, hnodup⟩) (by simp)
      cases path with
      | nil => simp
      | cons k path => exact hchain.cons_cons (hw k rfl n List.mem_cons_self)
    have hafter := ih₁ hchain hnodup fun k hk m hm => hw k hk m (List.mem_cons_of_mem _ hm)
    exact List.forall_mem_append.mpr ⟨hbelow, hafter⟩
  | case4 unseen path n waiting hp hu r ih =>
    exact ih hchain hnodup fun k hk m hm => hw k hk m (List.mem_cons_of_mem _ hm)

lemma closings_append (found more : List (List String)) :
    closings (found ++ more) = closings found ++ closings more :=
  List.filterMap_append

lemma closings_cons_of_back (k n : String) (path : List String) (found : List (List String)) :
    closings ((n :: (((k :: path).takeWhile (· ≠ n)).reverse ++ [n])) :: found) =
      (k, n) :: closings found := by
  apply List.filterMap_cons_some
  by_cases h : k = n
  · simp [h, steps]
  · rw [List.takeWhile_cons_of_pos (by simpa using h), List.reverse_cons, List.append_assoc,
      List.cons_append, List.nil_append, ← List.cons_append, steps_concat, List.getLast?_concat]

lemma count_closings (hn : n ∈ k :: path) :
    waiting.count n ≤ (closings (explore next unseen (k :: path) waiting).cycles).count (k, n) := by
  generalize hpath : k :: path = whole at hn ⊢
  fun_induction explore next unseen whole waiting with
  | case1 => simp
  | case2 unseen whole m waiting hp r ih =>
    subst hpath
    rw [closings_cons_of_back, List.count_cons, List.count_cons]
    have hrest := ih rfl hn
    by_cases h : m = n <;> simp [h] <;> omega
  | case3 unseen whole m waiting hp hu below after hle ih₂ ih₁ =>
    have hne : m ≠ n := by
      rintro rfl
      simp [hn] at hp
    have hafter : waiting.count n ≤ (closings after.cycles).count (k, n) := ih₁ hpath hn
    rw [List.count_cons_of_ne hne, closings_append, List.count_append]
    omega
  | case4 unseen whole m waiting hp hu r ih =>
    have hne : m ≠ n := by
      rintro rfl
      simp [hn] at hp
    simpa [List.count_cons, hne] using ih hpath hn

def Left (next : String → List String) (gone : List (String × String)) (a b : String) : Prop :=
  gone.count (a, b) < (next a).count b

lemma left_of_nothing_gone {a b : String} (h : b ∈ next a) : Left next [] a b :=
  List.count_pos_iff.mpr h

lemma explore_acc {gone : List (String × String)} (unseen path waiting : List String)
    (hb : ∀ n, n ∉ unseen → n ∉ path → Acc (fun b a => Left next gone a b) n)
    (hg : (closings (explore next unseen path waiting).cycles).Sublist gone) :
    (∀ n, n ∉ (explore next unseen path waiting).rest → n ∉ path →
        Acc (fun b a => Left next gone a b) n) ∧
      ∀ n ∈ waiting, n ∉ path → Acc (fun b a => Left next gone a b) n := by
  -- What the search has left behind reaches, along edges that are left, only what ends.
  fun_induction explore next unseen path waiting with
  | case1 unseen path => exact ⟨hb, by simp⟩
  | case2 unseen path n waiting hp r ih =>
    have hn : n ∈ path := by simpa using hp
    cases path with
    | nil => cases hn
    | cons k path =>
      rw [closings_cons_of_back] at hg
      obtain ⟨hrest, hwait⟩ := ih hb ((List.sublist_cons_self _ _).trans hg)
      exact ⟨hrest, List.forall_mem_cons.mpr ⟨fun h => absurd hn h, hwait⟩⟩
  | case3 unseen path n waiting hp hu below after hle ih₂ ih₁ =>
    rw [closings_append] at hg
    have hbelow := (List.sublist_append_left _ _).trans hg
    have hafter := (List.sublist_append_right _ _).trans hg
    have hb' : ∀ m, m ∉ unseen.erase n → m ∉ n :: path →
        Acc (fun b a => Left next gone a b) m := by
      intro m hm hmp
      simp only [List.mem_cons, not_or] at hmp
      exact hb m (fun h => hm ((List.mem_erase_of_ne hmp.1).mpr h)) hmp.2
    obtain ⟨hrest, hnext⟩ := ih₂ hb' hbelow
    -- An edge from `n` that is left leads off the path: all copies of one that leads back are gone.
    have hn : Acc (fun b a => Left next gone a b) n := by
      refine Acc.intro n fun m hm => ?_
      have hmem : m ∈ next n := List.count_pos_iff.mp (Nat.zero_lt_of_lt hm)
      apply hnext m hmem
      intro hback
      have hclosed : (next n).count m ≤ (closings below.cycles).count (n, m) :=
        count_closings hback
      exact absurd hm (Nat.not_lt.mpr (hclosed.trans (hbelow.count_le (n, m))))
    have hb'' : ∀ m, m ∉ below.rest → m ∉ path → Acc (fun b a => Left next gone a b) m := by
      intro m hm hmp
      by_cases he : m = n
      · exact he ▸ hn
      · exact hrest m hm (by simp [he, hmp])
    obtain ⟨hlast, hwait⟩ := ih₁ hb'' hafter
    exact ⟨hlast, List.forall_mem_cons.mpr ⟨fun _ => hn, hwait⟩⟩
  | case4 unseen path n waiting hp hu r ih =>
    obtain ⟨hlast, hwait⟩ := ih hb hg
    exact ⟨hlast, List.forall_mem_cons.mpr ⟨hb n hu, hwait⟩⟩

variable {nodes : List String}

lemma loop_of_mem_cycles : ∀ cycle ∈ cycles nodes next, Loop next cycle :=
  explore_loop .nil List.nodup_nil (by simp)

lemma Loop.transGen {cycle : List String} (h : Loop next cycle) :
    ∃ n, Relation.TransGen (fun a b => b ∈ next a) n n := by
  obtain ⟨n, inner, rfl, -, hchain⟩ := h
  have hway : (n :: (inner ++ [n])).IsChain (Relation.TransGen fun a b => b ∈ next a) :=
    hchain.imp fun _ _ => Relation.TransGen.single
  exact ⟨n, List.rel_of_pairwise_cons (List.isChain_iff_pairwise.mp hway) (by simp)⟩

lemma not_transGen_left (hs : ∀ n, n ∉ nodes → next n = []) (n : String) :
    ¬ Relation.TransGen (Left next (closings (cycles nodes next))) n n := by
  have hout : ∀ m, m ∉ nodes → m ∉ ([] : List String) →
      Acc (fun b a => Left next (closings (cycles nodes next)) a b) m := by
    intro m hm _
    exact Acc.intro m fun k hk => by simp [Left, hs m hm] at hk
  have hacc : ∀ m, Acc (fun b a => Left next (closings (cycles nodes next)) a b) m := by
    intro m
    by_cases hm : m ∈ nodes
    · exact (explore_acc nodes [] nodes hout (List.Sublist.refl _)).2 m hm (by simp)
    · exact hout m hm (by simp)
  intro hn
  have hwf : WellFounded fun b a => Left next (closings (cycles nodes next)) a b := ⟨hacc⟩
  exact hwf.transGen.irrefl.irrefl n (Relation.transGen_swap.mp hn)

end Workflow.CycleSearch
