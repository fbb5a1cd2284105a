import Mathlib.Data.List.Chain
import Mathlib.Data.List.Induction
import Workflow.Proofs.Graph.Generations

/-!
Generations and longest paths tell the same: a node lies in the generation whose number is that of
the edges of a longest path to it, and the longest path visits the generations one after another.
-/

namespace Workflow.Digraph

variable {g : Digraph} {done gen order path l : List String} {n m : String} {i j k : Nat}
  {paths : List (List String)}

def Back (g : Digraph) (path : List String) : Prop := path.IsChain fun b a => a ∈ g.predecessors b

structure Depth (g : Digraph) (n : String) (k : Nat) : Prop where
  reached : ∃ l, g.Back (n :: l) ∧ l.length = k
  bound : ∀ l, g.Back (n :: l) → l.length ≤ k

namespace Depth

lemma unique (h : g.Depth n i) (h' : g.Depth n j) : i = j := by
  obtain ⟨l, hl, rfl⟩ := h.reached
  obtain ⟨l', hl', rfl⟩ := h'.reached
  exact Nat.le_antisymm (h'.bound l hl) (h.bound l' hl')

lemma of_predecessors (hl : g.Back (n :: l))
    (hall : ∀ m ∈ g.predecessors n, ∃ j < l.length, g.Depth m j) : g.Depth n l.length where
  reached := ⟨l, hl, rfl⟩
  bound l' hl' := by
    cases l' with
    | nil => exact Nat.zero_le _
    | cons m l' =>
      obtain ⟨hm, hl'⟩ := List.isChain_cons_cons.mp hl'
      obtain ⟨j, hj, hd⟩ := hall m hm
      have := hd.bound l' hl'
      rw [List.length_cons]
      omega

lemma lt_of_predecessor (h : g.Depth n i) (hm : m ∈ g.predecessors n) (hd : g.Depth m j) :
    j < i := by
  obtain ⟨l, hl, rfl⟩ := hd.reached
  exact h.bound (m :: l) (List.isChain_cons_cons.mpr ⟨hm, hl⟩)

lemma of_suffix {a b : List String} (hd : g.Depth n l.length) (hl : g.Back (n :: l))
    (he : n :: l = a ++ m :: b) : g.Depth m b.length := by
  rw [he] at hl
  obtain ⟨ha, hb, hjoin⟩ := List.isChain_append.mp hl
  refine ⟨⟨b, hb, rfl⟩, fun b' hb' => ?_⟩
  have hl' : g.Back (a ++ m :: b') := List.isChain_append.mpr ⟨ha, hb', hjoin⟩
  cases a with
  | nil =>
    obtain ⟨rfl, rfl⟩ := List.cons.inj he
    exact hd.bound b' hl'
  | cons x a =>
    rw [List.cons_append] at he
    obtain ⟨rfl, rfl⟩ := List.cons.inj he
    have hle := hd.bound (a ++ m :: b') hl'
    simp only [List.length_append, List.length_cons] at hle
    omega

end Depth

lemma exists_split_of_reverse (h : l.reverse[i]? = some m) :
    ∃ a b, l = a ++ m :: b ∧ b.length = i := by
  obtain ⟨hi, hm⟩ := List.getElem?_eq_some_iff.mp h
  refine ⟨(l.reverse.drop (i + 1)).reverse, (l.reverse.take i).reverse, ?_, ?_⟩
  · have hsplit : l.reverse = l.reverse.take i ++ m :: l.reverse.drop (i + 1) := by
      rw [← hm, ← List.drop_eq_getElem_cons hi, List.take_append_drop]
    simpa using congrArg List.reverse hsplit
  · rw [List.length_reverse, List.length_take]
    exact Nat.min_eq_left hi.le

lemma Frontier.depth_ripe (hgen : ∀ n ∈ gen, g.Depth n k) (hdone : ∀ n ∈ done, ∃ j < k, g.Depth n j)
    {c : String} (hc : c ∈ g.ripe done gen) : g.Depth c (k + 1) := by
  obtain ⟨a, n, b, rfl, hn, hall⟩ := mem_ripe.mp hc
  obtain ⟨l, hl, rfl⟩ := (hgen n (by simp)).reached
  refine Depth.of_predecessors (l := n :: l) (List.isChain_cons_cons.mpr ⟨hn, hl⟩) fun m hm => ?_
  rcases hall m hm with rfl | hm | hm
  · exact ⟨l.length, by simp, hgen m (by simp)⟩
  · exact ⟨l.length, by simp, hgen m (by simp [hm])⟩
  · obtain ⟨j, hj, hd⟩ := hdone m hm
    exact ⟨j, by rw [List.length_cons]; omega, hd⟩

lemma generationsFrom_depth (fuel : Nat) (hgen : ∀ n ∈ gen, g.Depth n k)
    (hdone : ∀ n ∈ done, ∃ j < k, g.Depth n j) {layer : List String}
    (hi : (g.generationsFrom fuel done gen)[i]? = some layer) :
    layer ≠ [] ∧ ∀ n ∈ layer, g.Depth n (k + i) := by
  induction fuel generalizing done gen k i with
  | zero => simp [generationsFrom] at hi
  | succ fuel ih =>
    rw [generationsFrom] at hi
    split at hi
    · simp at hi
    · rename_i hne
      cases i with
      | zero =>
        obtain rfl := Option.some.inj hi
        exact ⟨by simpa using hne, hgen⟩
      | succ i =>
        have hdone' : ∀ n ∈ gen.reverse ++ done, ∃ j < k + 1, g.Depth n j := by
          intro n hn
          rcases List.mem_append.mp hn with hn | hn
          · exact ⟨k, Nat.lt_succ_self k, hgen n (List.mem_reverse.mp hn)⟩
          · obtain ⟨j, hj, hd⟩ := hdone n hn
            exact ⟨j, Nat.lt_succ_of_lt hj, hd⟩
        have hrest := ih (fun c hc => Frontier.depth_ripe hgen hdone hc) hdone' hi
        rwa [Nat.add_right_comm] at hrest

lemma generations_depth {layers : List (List String)} (h : g.generations? = some layers)
    {layer : List String} (hi : layers[i]? = some layer) :
    layer ≠ [] ∧ ∀ n ∈ layer, g.Depth n i := by
  rw [generations?] at h
  split at h
  · obtain rfl := Option.some.inj h
    have hsources : ∀ n ∈ g.sources, g.Depth n 0 := by
      intro n hn
      have hnone : g.predecessors n = [] := by simpa using (List.mem_filter.mp hn).2
      exact Depth.of_predecessors (l := []) (List.isChain_singleton n) (by simp [hnone])
    simpa using generationsFrom_depth g.nodes.length hsources (by simp) hi
  · cases h

lemma foldl_longest (paths : List (List String)) (best : List String) :
    let found := paths.foldl (fun best path => if best.length < path.length then path else best) best
    (found = best ∨ found ∈ paths) ∧ best.length ≤ found.length ∧
      ∀ path ∈ paths, path.length ≤ found.length := by
  induction paths generalizing best with
  | nil => simp
  | cons path rest ih =>
    obtain ⟨hmem, hbest, hall⟩ := ih (if best.length < path.length then path else best)
    have hpath : best.length ≤ (if best.length < path.length then path else best).length ∧
        path.length ≤ (if best.length < path.length then path else best).length := by
      split <;> omega
    refine ⟨?_, hpath.1.trans hbest, List.forall_mem_cons.mpr ⟨hpath.2.trans hbest, hall⟩⟩
    rcases hmem with he | hm
    · rw [List.foldl_cons, he]
      split <;> simp
    · exact .inr (List.mem_cons_of_mem _ hm)

lemma longest_mem (paths : List (List String)) : longest paths = [] ∨ longest paths ∈ paths :=
  (foldl_longest paths []).1

lemma length_le_longest (h : path ∈ paths) : path.length ≤ (longest paths).length :=
  (foldl_longest paths []).2.2 path h

def Sorted (g : Digraph) (order : List String) : Prop :=
  ∀ a n b, order = a ++ n :: b → ∀ m ∈ g.predecessors n, m ∈ a

lemma pathsTo_concat (g : Digraph) (order : List String) (n : String) :
    g.pathsTo (order ++ [n]) = g.pathsTo order ++
      [(n, n :: longest ((g.predecessors n).filterMap fun p => (g.pathsTo order).lookup p))] := by
  rw [pathsTo, List.foldl_append]
  rfl

lemma keys_pathsTo (g : Digraph) (order : List String) :
    (g.pathsTo order).map Prod.fst = order := by
  induction order using List.reverseRecOn with
  | nil => rfl
  | append_singleton order n ih => rw [pathsTo_concat, List.map_append, ih]; rfl

lemma exists_lookup {α : Type} {entries : List (String × α)} (h : n ∈ entries.map Prod.fst) :
    ∃ x, entries.lookup n = some x ∧ (n, x) ∈ entries := by
  obtain ⟨e, he, rfl⟩ := List.mem_map.mp h
  have hsome : (entries.lookup e.1).isSome = true :=
    List.lookup_isSome_iff.mpr ⟨e, he, beq_self_eq_true e.1⟩
  obtain ⟨x, hx⟩ := Option.isSome_iff_exists.mp hsome
  obtain ⟨a, b, hsplit, -⟩ := List.lookup_eq_some_iff.mp hx
  exact ⟨x, hx, by rw [hsplit]; simp⟩

lemma extend_longest {look : String → Option (List String)}
    (h : ∀ m ∈ g.predecessors n, ∃ l, look m = some (m :: l) ∧ g.Back (m :: l) ∧
      g.Depth m l.length) :
    g.Back (n :: longest ((g.predecessors n).filterMap look)) ∧
      g.Depth n (longest ((g.predecessors n).filterMap look)).length := by
  -- The longest path to a predecessor leads on to a longest path.
  have hback : g.Back (n :: longest ((g.predecessors n).filterMap look)) := by
    rcases longest_mem ((g.predecessors n).filterMap look) with he | hmem
    · rw [he]
      exact List.isChain_singleton n
    · obtain ⟨m, hm, hx⟩ := List.mem_filterMap.mp hmem
      obtain ⟨l, hlook, hl, -⟩ := h m hm
      rw [← Option.some.inj (hlook.symm.trans hx)]
      exact List.isChain_cons_cons.mpr ⟨hm, hl⟩
  refine ⟨hback, Depth.of_predecessors hback fun m hm => ?_⟩
  obtain ⟨l, hlook, -, hd⟩ := h m hm
  exact ⟨l.length, length_le_longest (List.mem_filterMap.mpr ⟨m, hm, hlook⟩), hd⟩

lemma pathsTo_longest (h : g.Sorted order) (hp : (n, path) ∈ g.pathsTo order) :
    ∃ l, path = n :: l ∧ g.Back path ∧ g.Depth n l.length := by
  induction order using List.reverseRecOn generalizing n path with
  | nil => simp [pathsTo] at hp
  | append_singleton order c ih =>
    have hsorted : g.Sorted order := fun a n b he => h a n (b ++ [c]) (by simp [he])
    rw [pathsTo_concat, List.mem_append, List.mem_singleton] at hp
    rcases hp with hp | hp
    · exact ih hsorted hp
    · obtain ⟨rfl, rfl⟩ := Prod.mk.inj hp
      refine ⟨_, rfl, extend_longest fun m hm => ?_⟩
      have hmem : m ∈ (g.pathsTo order).map Prod.fst := by
        rw [keys_pathsTo]
        exact h order n [] rfl m hm
      obtain ⟨x, hx, hin⟩ := exists_lookup hmem
      obtain ⟨l, rfl, hl⟩ := ih hsorted hin
      exact ⟨l, hx, hl⟩

def crossing (g : Digraph) (layers : List (List String)) : List String :=
  longest ((g.pathsTo layers.flatten).map Prod.snd)

section Acyclic

variable (h : g.Acyclic) {layers : List (List String)} (hl : g.generations? = some layers)
include h hl

lemma layers_perm : layers.flatten.Perm g.nodes := by
  obtain ⟨layers', hl', hperm⟩ := generations_complete h
  rwa [Option.some.inj (hl.symm.trans hl')]

omit hl in
lemma Back.mem_nodes (hback : g.Back (n :: l)) (hn : n ∈ g.nodes) (hm : m ∈ n :: l) :
    m ∈ g.nodes := by
  induction l generalizing n with
  | nil => rwa [List.mem_singleton.mp hm]
  | cons x l ih =>
    obtain ⟨hx, hrest⟩ := List.isChain_cons_cons.mp hback
    rcases List.mem_cons.mp hm with rfl | hm
    · exact hn
    · exact ih hrest (h.source_mem (mem_predecessors.mp hx)) hm

lemma exists_layer (hn : n ∈ g.nodes) :
    ∃ (i : Nat) (layer : List String), layers[i]? = some layer ∧ n ∈ layer := by
  obtain ⟨layer, hlayer, hmem⟩ := List.mem_flatten.mp ((layers_perm h hl).mem_iff.mpr hn)
  obtain ⟨i, hi⟩ := List.mem_iff_getElem?.mp hlayer
  exact ⟨i, layer, hi, hmem⟩

omit h in
lemma depth_le_of_later :
    layers.flatten.Pairwise fun a b => ∀ i j, g.Depth a i → g.Depth b j → i ≤ j := by
  rw [List.pairwise_flatten]
  constructor
  · intro layer hlayer
    obtain ⟨k, hk⟩ := List.mem_iff_getElem?.mp hlayer
    have hdepth := (generations_depth hl hk).2
    refine List.pairwise_of_forall_mem_list ?_
    intro a ha b hb i j hi hj
    rw [hi.unique (hdepth a ha), hj.unique (hdepth b hb)]
  · rw [List.pairwise_iff_getElem]
    intro k k' hk hk' hlt a ha b hb i j hi hj
    rw [hi.unique ((generations_depth hl (List.getElem?_eq_getElem hk)).2 a ha),
      hj.unique ((generations_depth hl (List.getElem?_eq_getElem hk')).2 b hb)]
    exact hlt.le

lemma sorted_layers : g.Sorted layers.flatten := by
  have hlater := depth_le_of_later hl
  intro a n b he m hm
  have hnodes : ∀ {c}, c ∈ g.nodes → ∃ i, g.Depth c i := fun hc => by
    obtain ⟨i, layer, hi, hmem⟩ := exists_layer h hl hc
    exact ⟨i, (generations_depth hl hi).2 _ hmem⟩
  obtain ⟨i, hi⟩ := hnodes (h.source_mem (mem_predecessors.mp hm))
  obtain ⟨j, hj⟩ := hnodes (h.target_mem (mem_predecessors.mp hm))
  have hlt := hj.lt_of_predecessor hm hi
  have hin : m ∈ a ++ n :: b := by
    rw [← he]
    exact (layers_perm h hl).mem_iff.mpr (h.source_mem (mem_predecessors.mp hm))
  rw [he, List.pairwise_append, List.pairwise_cons] at hlater
  rcases List.mem_append.mp hin with hin | hin
  · exact hin
  · rcases List.mem_cons.mp hin with rfl | hin
    · exact absurd (hi.unique hj) (Nat.ne_of_lt hlt)
    · exact absurd (hlater.2.1.1 m hin j i hj hi) (Nat.not_le.mpr hlt)

lemma crossing_cases : g.crossing layers = [] ∨ ∃ n l, g.crossing layers = n :: l ∧ n ∈ g.nodes ∧
    g.Back (n :: l) ∧ g.Depth n l.length := by
  refine (longest_mem _).imp_right fun hmem => ?_
  obtain ⟨⟨n, path⟩, hin, hpath⟩ := List.mem_map.mp hmem
  obtain ⟨l, rfl, hback, hd⟩ := pathsTo_longest (sorted_layers h hl) hin
  have hn : n ∈ layers.flatten := keys_pathsTo g layers.flatten ▸ List.mem_map_of_mem hin
  exact ⟨n, l, hpath.symm, (layers_perm h hl).mem_iff.mp hn, hback, hd⟩

lemma length_crossing_le : (g.crossing layers).length ≤ layers.length := by
  rcases crossing_cases h hl with he | ⟨n, l, he, hn, -, hd⟩
  · simp [he]
  · obtain ⟨i, layer, hi, hmem⟩ := exists_layer h hl hn
    rw [he, List.length_cons, hd.unique ((generations_depth hl hi).2 n hmem)]
    exact (List.getElem?_eq_some_iff.mp hi).1

lemma le_length_crossing : layers.length ≤ (g.crossing layers).length := by
  rcases Nat.eq_zero_or_pos layers.length with hzero | hpos
  · rw [hzero]
    exact Nat.zero_le _
  · have hlast := List.getElem?_eq_getElem (Nat.sub_lt hpos Nat.one_pos)
    obtain ⟨hne, hdepth⟩ := generations_depth hl hlast
    obtain ⟨n, hn⟩ := List.exists_mem_of_ne_nil _ hne
    have hkey : n ∈ (g.pathsTo layers.flatten).map Prod.fst := by
      rw [keys_pathsTo]
      exact List.mem_flatten.mpr ⟨_, List.getElem_mem _, hn⟩
    obtain ⟨path, -, hmem⟩ := exists_lookup hkey
    obtain ⟨l, rfl, -, hd⟩ := pathsTo_longest (sorted_layers h hl) hmem
    have hlen : (n :: l).length ≤ (g.crossing layers).length :=
      length_le_longest (List.mem_map_of_mem hmem)
    rw [List.length_cons, hd.unique (hdepth n hn)] at hlen
    omega

theorem longestPath_visits : ∃ path : List String, g.longestPath? = some path ∧
    g.Back path.reverse ∧ path.length = layers.length ∧
    ∀ (i : Nat) n, path[i]? = some n → ∃ layer, layers[i]? = some layer ∧ n ∈ layer := by
  have hcases := crossing_cases h hl
  refine ⟨(g.crossing layers).reverse, by rw [longestPath?, hl, Option.map_some, crossing], ?_,
    ?_, ?_⟩
  · rw [List.reverse_reverse]
    rcases hcases with he | ⟨n, l, he, -, hback, -⟩
    · exact he ▸ List.isChain_nil
    · exact he ▸ hback
  · rw [List.length_reverse]
    exact Nat.le_antisymm (length_crossing_le h hl) (le_length_crossing h hl)
  · intro i m hi
    obtain ⟨a, b, he, rfl⟩ := exists_split_of_reverse hi
    rcases hcases with hnil | ⟨n, l, hpath, hn, hback, hd⟩
    · simp [hnil] at he
    · rw [hpath] at he
      have hm : m ∈ g.nodes := hback.mem_nodes h hn (by simp [he])
      obtain ⟨j, layer, hj, hmem⟩ := exists_layer h hl hm
      rw [(hd.of_suffix hback he).unique ((generations_depth hl hj).2 m hmem)]
      exact ⟨layer, hj, hmem⟩

end Acyclic

end Workflow.Digraph
