import Mathlib.Data.List.Induction
import Mathlib.Data.List.Nodup
import Mathlib.Data.List.Perm.Subperm
import Mathlib.Tactic.Lemma
import Workflow.Proofs.Plan.Exact

/-! Edge mappings: what a plan holds for two nodes is the merge over the edges whose ends read the
same when written one after another. -/

namespace Workflow

namespace Keyed

variable {α β γ : Type} {m n : Keyed α} {k k' : String} {v : α}

lemma eraseDups_concat (ks : List String) (k : String) :
    (ks ++ [k]).eraseDups = if k ∈ ks then ks.eraseDups else ks.eraseDups ++ [k] := by
  rw [List.eraseDups_append]
  split <;> simp_all [List.removeAll, List.eraseDups_cons]

lemma keys_ofPairs (l : List (String × α)) : keys (ofPairs l) = (keys l).eraseDups := by
  induction l using List.reverseRecOn with
  | nil => rfl
  | append_singleton l e ih =>
    have hl : keys (l ++ [e]) = keys l ++ [e.1] := List.map_append
    rw [ofPairs_concat, keys_set, ih, hl, eraseDups_concat]
    simp [List.mem_eraseDups]

lemma find?_ofPairs (l : List (String × α)) : find? (ofPairs l) k = find? l.reverse k := by
  induction l using List.reverseRecOn with
  | nil => rfl
  | append_singleton l e ih =>
    rw [ofPairs_concat, find?_set, ih, List.reverse_concat]
    rfl

lemma ext_of_find? (hn : (keys m).Nodup) (hk : keys m = keys n)
    (hf : ∀ k, find? m k = find? n k) : m = n := by
  induction m generalizing n with
  | nil => exact (List.map_eq_nil_iff.mp hk.symm).symm
  | cons e m ih =>
    obtain ⟨j, v⟩ := e
    match n, hk with
    | (j', v') :: n, hk =>
      obtain ⟨rfl, hkeys⟩ : j = j' ∧ keys m = keys n := by simpa [keys] using hk
      obtain ⟨hj, hn⟩ : j ∉ keys m ∧ (keys m).Nodup := by simpa [keys] using hn
      have hv : v = v' := by simpa [find?] using hf j
      rw [hv, ih hn hkeys]
      intro i
      by_cases hi : j = i
      · rw [find?_eq_none_iff.mpr (hi ▸ hj), find?_eq_none_iff.mpr (hi ▸ hkeys ▸ hj)]
      · simpa [find?, hi] using hf i

variable {l : List (γ × String × α)}

lemma find?_ofPairs_map : find? (ofPairs (l.map Prod.snd)) k =
    (l.reverse.find? fun x => x.2.1 = k).map fun x => x.2.2 := by
  rw [find?_ofPairs, ← List.map_reverse]
  exact find?_map (fun x : γ × String × α => x.2.1) (fun x => x.2.2) _

variable [DecidableEq γ]

def tagged (l : List (γ × String × α)) (g : γ) : List (String × α) :=
  (l.filter fun x => x.1 = g).map Prod.snd

lemma tagged_append (l more : List (γ × String × α)) (g : γ) :
    tagged (l ++ more) g = tagged l g ++ tagged more g := by
  simp [tagged]

lemma mem_keys_of_tagged {g : γ} (h : k ∈ keys (tagged l g)) : k ∈ keys (l.map Prod.snd) := by
  simp only [keys, tagged, List.map_map] at h ⊢
  exact (List.filter_sublist.map _).subset h

lemma eraseDups_prefix_of_tagged {ks : List String}
    (h : ∀ g, (keys (tagged l g)).eraseDups <+: ks) : (keys (l.map Prod.snd)).eraseDups <+: ks := by
  -- Parts that give their keys in one order leave them in that order together.
  induction l using List.reverseRecOn with
  | nil => exact List.nil_prefix
  | append_singleton l x ih =>
    obtain ⟨g, k, v⟩ := x
    have hl : ∀ g', (keys (tagged l g')).eraseDups <+: ks := by
      intro g'
      refine List.IsPrefix.trans ?_ (h g')
      rw [tagged_append, keys, keys, List.map_append, List.eraseDups_append]
      exact List.prefix_append _ _
    have hkeys : keys ((l ++ [(g, k, v)]).map Prod.snd) = keys (l.map Prod.snd) ++ [k] := by
      simp [keys]
    have hpart : keys (tagged (l ++ [(g, k, v)]) g) = keys (tagged l g) ++ [k] := by
      simp [keys, tagged]
    rw [hkeys, eraseDups_concat]
    split
    · exact ih hl
    · rename_i hk
      have hnew : k ∉ keys (tagged l g) := fun h => hk (mem_keys_of_tagged h)
      have hg := h g
      rw [hpart, eraseDups_concat, if_neg hnew] at hg
      -- No key was met outside this part that its own list has not met, as `k` would come first.
      have hsub : (keys (l.map Prod.snd)).eraseDups <+: (keys (tagged l g)).eraseDups := by
        rcases List.prefix_or_prefix_of_prefix (ih hl) hg with hp | hp
        · rcases List.prefix_concat_iff.mp hp with he | hp
          · exact absurd (List.mem_eraseDups.mp (he ▸ List.mem_concat_self)) hk
          · exact hp
        · exact absurd (List.mem_eraseDups.mp (hp.subset List.mem_concat_self)) hk
      have hle : (keys (tagged l g)).eraseDups.length ≤
          (keys (l.map Prod.snd)).eraseDups.length := by
        refine (List.subperm_of_subset (nodup_eraseDups _) fun i hi => ?_).length_le
        exact List.mem_eraseDups.mpr (mem_keys_of_tagged (List.mem_eraseDups.mp hi))
      rwa [hsub.eq_of_length_le hle]

lemma find?_tagged_of_last {x : γ × String × α}
    (hx : l.reverse.find? (fun x => x.2.1 = k) = some x) :
    find? (ofPairs (tagged l x.1)) k = some x.2.2 := by
  obtain ⟨hk, before, after, heq, hbefore⟩ := List.find?_eq_some_iff_append.mp hx
  have hpart : ((l.filter fun y => y.1 = x.1).reverse.find? fun y => y.2.1 = k) = some x := by
    rw [← List.filter_reverse, List.find?_filter, List.find?_eq_some_iff_append]
    refine ⟨by simpa using hk, before, after, heq, fun y hy => ?_⟩
    have hne : ¬ y.2.1 = k := by simpa using hbefore y hy
    simp [hne]
  rw [tagged, find?_ofPairs_map, hpart]
  rfl

lemma ofPairs_of_tagged (hall : ∀ x ∈ l, ofPairs (tagged l x.1) = m) {g : γ}
    (hg : ofPairs (tagged l g) = m) : ofPairs (l.map Prod.snd) = m := by
  have hprefix : keys (ofPairs (l.map Prod.snd)) <+: keys m := by
    rw [keys_ofPairs]
    refine eraseDups_prefix_of_tagged fun g' => ?_
    rw [← keys_ofPairs]
    by_cases hpart : tagged l g' = []
    · rw [hpart]
      exact List.nil_prefix
    · obtain ⟨e, he⟩ := List.exists_mem_of_ne_nil _ hpart
      obtain ⟨x, hx, -⟩ := List.mem_map.mp he
      obtain ⟨hx, htag⟩ := List.mem_filter.mp hx
      have htag : x.1 = g' := by simpa using htag
      exact (hall x hx ▸ htag ▸ List.prefix_rfl)
  have hnodup : (keys m).Nodup := by
    rw [← hg, keys_ofPairs]
    exact nodup_eraseDups _
  have hle : (keys m).length ≤ (keys (ofPairs (l.map Prod.snd))).length := by
    refine (List.subperm_of_subset hnodup fun k hk => ?_).length_le
    rw [← hg, keys_ofPairs, List.mem_eraseDups] at hk
    rw [keys_ofPairs, List.mem_eraseDups]
    exact mem_keys_of_tagged hk
  have hkeys := hprefix.eq_of_length_le hle
  refine ext_of_find? (hkeys ▸ hnodup) hkeys fun k => ?_
  cases hlast : l.reverse.find? fun x => x.2.1 = k with
  | none =>
    have hnone : find? (ofPairs (l.map Prod.snd)) k = none := by rw [find?_ofPairs_map, hlast]; rfl
    rw [hnone, eq_comm, find?_eq_none_iff, ← hkeys, ← find?_eq_none_iff, hnone]
  | some x =>
    have hx : x ∈ l := List.mem_reverse.mp (List.mem_of_find?_eq_some hlast)
    rw [← hall x hx, find?_tagged_of_last hlast, find?_ofPairs_map, hlast]
    rfl

end Keyed

namespace Plan

lemma edgeKey_toList (s t : String) :
    (edgeKey s t).toList = s.toList ++ '-' :: '>' :: t.toList := by
  simp only [edgeKey, String.toList_append, List.append_assoc]
  rfl

lemma eq_of_arrow {l l' r r' : List Char} (hl' : ¬ ['-', '>'] <:+: l')
    (h : l ++ '-' :: '>' :: r = l' ++ '-' :: '>' :: r') (hlen : l <+: l') : l = l' ∧ r = r' := by
  obtain ⟨more, rfl⟩ := hlen
  match more with
  | [] => simpa using h
  | [x] => simp at h
  | x :: y :: more =>
    simp at h
    obtain ⟨rfl, rfl, rfl⟩ := h
    exact absurd ⟨l, more, by simp⟩ hl'

lemma edgeKey_injective {s t s' t' : String} (hs : ¬ ['-', '>'] <:+: s.toList)
    (hs' : ¬ ['-', '>'] <:+: s'.toList) (h : edgeKey s t = edgeKey s' t') : s = s' ∧ t = t' := by
  have hkey := congrArg String.toList h
  rw [edgeKey_toList, edgeKey_toList] at hkey
  have hends : s.toList = s'.toList ∧ t.toList = t'.toList := by
    rcases List.prefix_or_prefix_of_prefix (List.prefix_append s.toList _)
        (hkey ▸ List.prefix_append s'.toList _) with hp | hp
    · exact eq_of_arrow hs' hkey hp
    · exact (eq_of_arrow hs hkey.symm hp).imp Eq.symm Eq.symm
  exact hends.imp String.toList_inj.mp String.toList_inj.mp

end Plan

namespace Canvas

variable {c : Canvas} {catalogue : Catalogue} {p : Plan} {s t : String}

def edgesBetween (c : Canvas) (s t : String) : List CanvasEdge :=
  c.edges.filter fun e => e.source = s && e.target = t

/-- Their mappings merged in order: of two paths for one input the later one counts. -/
def mergedMapping (c : Canvas) (s t : String) : Mapping :=
  (c.edgesBetween s t).foldl (fun merged e => Keyed.merge merged e.mapping) []

lemma foldl_merge_mapping (edges : List CanvasEdge) (m : Mapping) :
    edges.foldl (fun merged e => Keyed.merge merged e.mapping) m =
      Keyed.merge m (edges.flatMap CanvasEdge.mapping) := by
  induction edges generalizing m with
  | nil => rfl
  | cons e edges ih =>
    rw [List.flatMap_cons, Keyed.merge_append]
    exact ih _

def edgesUnder (c : Canvas) (s t : String) : List CanvasEdge :=
  c.executableEdges.filter fun e => Plan.edgeKey e.source e.target = Plan.edgeKey s t

lemma mem_edgesUnder {e : CanvasEdge} (h : e ∈ c.edgesUnder s t) :
    Plan.edgeKey e.source e.target = Plan.edgeKey s t ∧ e.source ∈ c.executableIds ∧
      e.target ∈ c.executableIds := by
  obtain ⟨he, hkey⟩ := List.mem_filter.mp h
  exact ⟨by simpa using hkey, (mem_executableEdges.mp he).2⟩

lemma find?_addMappings (edges : List CanvasEdge) (data : Keyed Mapping) (key : String) :
    (Keyed.find? (edges.foldl Plan.addMapping data) key).getD [] =
      (edges.filter fun e => Plan.edgeKey e.source e.target = key).foldl
        (fun merged e => Keyed.merge merged e.mapping) ((Keyed.find? data key).getD []) := by
  induction edges generalizing data with
  | nil => rfl
  | cons e edges ih =>
    rw [List.foldl_cons, ih, Plan.addMapping, Keyed.find?_set]
    by_cases he : Plan.edgeKey e.source e.target = key <;> simp [he]

lemma mappingFor_ofCanvas (s t : String) : (Plan.ofCanvas c catalogue).mappingFor s t =
    Keyed.ofPairs ((c.edgesUnder s t).flatMap CanvasEdge.mapping) :=
  (find?_addMappings _ [] _).trans (foldl_merge_mapping _ [])

def entries (e : CanvasEdge) : List ((String × String) × String × String) :=
  e.mapping.map fun entry => ((e.source, e.target), entry)

lemma entries_snd (edges : List CanvasEdge) :
    (edges.flatMap entries).map Prod.snd = edges.flatMap CanvasEdge.mapping := by
  simp [entries, List.map_flatMap, Function.comp_def]

lemma tagged_entries (edges : List CanvasEdge) (s t : String) :
    Keyed.tagged (edges.flatMap entries) (s, t) =
      (edges.filter fun e => e.source = s && e.target = t).flatMap CanvasEdge.mapping := by
  induction edges with
  | nil => rfl
  | cons e edges ih =>
    rw [List.flatMap_cons, Keyed.tagged_append, ih]
    by_cases he : e.source = s ∧ e.target = t
    · simp [Keyed.tagged, entries, List.filter_map, Function.comp_def, he]
    · have hnone : Keyed.tagged (entries e) (s, t) = [] := by
        simp [Keyed.tagged, entries, List.filter_map, Function.comp_def, he]
      rw [hnone, List.filter_cons_of_neg (by simpa using he), List.nil_append]

lemma edgesUnder_between {s' t' : String} (hkey : Plan.edgeKey s' t' = Plan.edgeKey s t)
    (hs : s' ∈ c.executableIds) (ht : t' ∈ c.executableIds) :
    ((c.edgesUnder s t).filter fun e => e.source = s' && e.target = t') = c.edgesBetween s' t' := by
  simp only [edgesUnder, executableEdges, edgesBetween, List.filter_filter]
  refine List.filter_congr fun e _ => ?_
  by_cases he : e.source = s' ∧ e.target = t'
  · simp [he, hkey, hs, ht]
  · simp [he]

lemma mergedMapping_eq {s' t' : String} (hkey : Plan.edgeKey s' t' = Plan.edgeKey s t)
    (hs : s' ∈ c.executableIds) (ht : t' ∈ c.executableIds) :
    Keyed.ofPairs (Keyed.tagged ((c.edgesUnder s t).flatMap entries) (s', t')) =
      c.mergedMapping s' t' := by
  rw [tagged_entries, edgesUnder_between hkey hs ht, mergedMapping, foldl_merge_mapping]
  rfl

lemma mappingFor_eq_merged (hs : s ∈ c.executableIds) (ht : t ∈ c.executableIds)
    (hsame : ∀ e ∈ c.edgesUnder s t, c.mergedMapping e.source e.target = c.mergedMapping s t) :
    (Plan.ofCanvas c catalogue).mappingFor s t = c.mergedMapping s t := by
  rw [mappingFor_ofCanvas, ← entries_snd]
  refine Keyed.ofPairs_of_tagged (fun x hx => ?_) (mergedMapping_eq rfl hs ht)
  obtain ⟨e, he, hentry⟩ := List.mem_flatMap.mp hx
  obtain ⟨entry, -, rfl⟩ := List.mem_map.mp hentry
  obtain ⟨hkey, hsource, htarget⟩ := mem_edgesUnder he
  rw [mergedMapping_eq hkey hsource htarget]
  exact hsame e he

theorem mappingFor_exact_iff (h : c.compile catalogue = .ok p) :
    ((∀ s ∈ p.nodeIds, ∀ t ∈ p.nodeIds, p.mappingFor s t = c.mergedMapping s t) ↔
      ∀ s ∈ p.nodeIds, ∀ t ∈ p.nodeIds, ∀ s' ∈ p.nodeIds, ∀ t' ∈ p.nodeIds,
        Plan.edgeKey s t = Plan.edgeKey s' t' → c.mergedMapping s t = c.mergedMapping s' t') ∧
    ((∀ id ∈ p.nodeIds, ¬ ['-', '>'] <:+: id.toList) →
      ∀ s ∈ p.nodeIds, ∀ t ∈ p.nodeIds, p.mappingFor s t = c.mergedMapping s t) := by
  obtain ⟨hf, rfl⟩ := compile_eq_ok h
  have hids : (Plan.ofCanvas c catalogue).nodeIds = c.executableIds :=
    nodeIds_ofCanvas (nodup_of_duplicateNodes (checks_of_findings hf).1)
  rw [hids]
  constructor
  · constructor
    · intro hright s hs t ht s' hs' t' ht' hkey
      rw [← hright s hs t ht, ← hright s' hs' t' ht', Plan.mappingFor, Plan.mappingFor, hkey]
    · intro hsame s hs t ht
      refine mappingFor_eq_merged hs ht fun e he => ?_
      obtain ⟨hkey, hsource, htarget⟩ := mem_edgesUnder he
      exact hsame e.source hsource e.target htarget s hs t ht hkey
  · intro hplain s hs t ht
    refine mappingFor_eq_merged hs ht fun e he => ?_
    obtain ⟨hkey, hsource, -⟩ := mem_edgesUnder he
    obtain ⟨hs', ht'⟩ := Plan.edgeKey_injective (hplain e.source hsource) (hplain s hs) hkey
    rw [hs', ht']

def doubledEdge : Canvas where
  nodes? := some [.bare "a" .worker [("webhook_url", .str "http://worker")],
    .bare "b" .worker [("webhook_url", .str "http://worker")]]
  edges? := some [.bare "a" "b" [("x", "p"), ("y", "q")], .bare "a" "b" [("x", "r")]]

theorem doubledEdge_mapping : doubledEdge.compile [] = .ok (.ofCanvas doubledEdge []) ∧
    (∀ id ∈ (Plan.ofCanvas doubledEdge []).nodeIds, ¬ ['-', '>'] <:+: id.toList) ∧
    (Plan.ofCanvas doubledEdge []).mappingFor "a" "b" = doubledEdge.mergedMapping "a" "b" ∧
    doubledEdge.mergedMapping "a" "b" = [("x", "r"), ("y", "q")] := by
  have hc : doubledEdge.compile [] = .ok (.ofCanvas doubledEdge []) :=
    compile_of_checks (by decide +kernel) (by decide +kernel) (by decide +kernel)
  have hplain : ∀ id ∈ (Plan.ofCanvas doubledEdge []).nodeIds, ¬ ['-', '>'] <:+: id.toList := by
    decide +kernel
  exact ⟨hc, hplain, (mappingFor_exact_iff hc).2 hplain "a" (by decide +kernel) "b"
    (by decide +kernel), by decide +kernel⟩

def arrowedIds : Canvas where
  nodes? := some [.bare "a" .worker [("webhook_url", .str "http://worker")],
    .bare "b->c" .worker [("webhook_url", .str "http://worker")],
    .bare "a->b" .worker [("webhook_url", .str "http://worker")],
    .bare "c" .worker [("webhook_url", .str "http://worker")]]
  edges? := some [.bare "a" "b->c" [("x", "p")], .bare "a->b" "c" [("y", "q")]]

theorem arrowedIds_mixed : arrowedIds.compile [] = .ok (.ofCanvas arrowedIds []) ∧
    "a" ∈ (Plan.ofCanvas arrowedIds []).nodeIds ∧
    "b->c" ∈ (Plan.ofCanvas arrowedIds []).nodeIds ∧
    arrowedIds.mergedMapping "a" "b->c" = [("x", "p")] ∧
    (Plan.ofCanvas arrowedIds []).mappingFor "a" "b->c" = [("x", "p"), ("y", "q")] :=
  ⟨compile_of_checks (by decide +kernel) (by decide +kernel) (by decide +kernel),
    by decide +kernel, by decide +kernel, by decide +kernel, by decide +kernel⟩

end Canvas

end Workflow
