import Mathlib.Algebra.GroupWithZero.Nat
import Workflow.Proofs.Engine.Ledger

/-! Every key of a run belongs to one node, as the node itself or as one of its instances, and every
key of real work is counted once. -/

namespace Workflow

namespace Run

/-- The node and the instance that a key stands for are never in doubt. -/
structure Unambiguous (p : Plan) (r : Run) : Prop where
  templates_nodup : (Keyed.keys r.instances).Nodup
  counted : ∀ e ∈ r.instances, e.1 ∈ p.nodeIds ∧ ∃ n, e.2 = indices n
  keys_nodup : (Keyed.keys r.states).Nodup
  keys_perm : (Keyed.keys r.states).Perm (p.nodeIds ++ r.allInstanceTexts)
  of_instance : ∀ k, r.Registered k → r.instance? k.text = some k ∧ r.template k.text = k.template
  of_node : ∀ n ∈ p.nodeIds, r.instance? n = none ∧ r.template n = n
  effective_nodup : r.effectiveKeys.Nodup
  effective_iff : ∀ key, key ∈ r.effectiveKeys ↔
    key ∈ Keyed.keys r.states ∧ r.hasInstances key = false
  counts : ∃ counts, r.statusCounts = .ok counts ∧
    (Keyed.values counts).sum = r.effectiveKeys.length

variable {p : Plan} {r : Run} {key n t : String}

lemma sum_set_succ (counts : Keyed Nat) (k : String) :
    (Keyed.values (Keyed.set counts k ((Keyed.find? counts k).getD 0 + 1))).sum =
      (Keyed.values counts).sum + 1 := by
  induction counts with
  | nil => rfl
  | cons e counts ih =>
    obtain ⟨j, m⟩ := e
    by_cases hj : j = k
    · simp only [Keyed.set, Keyed.find?, Keyed.values, hj, ↓reduceIte, Option.getD_some,
        List.map_cons, List.sum_cons]
      omega
    · simp only [Keyed.values] at ih
      simp only [Keyed.set, Keyed.find?, Keyed.values, hj, ↓reduceIte, List.map_cons,
        List.sum_cons, ih]
      omega

lemma sum_tally (states : List NodeState) (counts : Keyed Nat) :
    (Keyed.values (states.foldl tally counts)).sum =
      (Keyed.values counts).sum + states.length := by
  induction states generalizing counts with
  | nil => rfl
  | cons s states ih =>
    rw [List.foldl_cons, ih, tally, sum_set_succ, List.length_cons]
    omega

lemma statusCounts_ok (h : ∀ k ∈ r.effectiveKeys, ∃ s, r.state? k = some s) :
    ∃ counts, r.statusCounts = .ok counts ∧
      (Keyed.values counts).sum = r.effectiveKeys.length := by
  have hstates : r.effectiveKeys.mapM r.stateAt =
      .ok (r.effectiveKeys.map fun k => (r.state? k).getD (.pending .null)) := by
    refine mapM_of_ok fun k hk => ?_
    obtain ⟨s, hs⟩ := h k hk
    rw [stateAt_of_state? hs, hs, Option.getD_some]
  refine ⟨_, by rw [statusCounts, hstates]; rfl, ?_⟩
  rw [sum_tally, List.length_map]
  exact Nat.zero_add _

namespace Sound

variable (h : r.Sound p)
include h

lemma nodup_instanceTexts : (Engine.instanceTexts r t).Nodup := by
  cases hf : Keyed.find? r.instances t with
  | none => simp [Engine.instanceTexts, instanceKeys, ascending, hf]
  | some is =>
    obtain ⟨_, n, rfl⟩ := h.counted hf
    rw [instanceTexts_of_find? hf, Store.firstInstances]
    refine List.nodup_range.map fun i j hij => ?_
    exact Int.ofNat.inj (InstanceKey.mk.inj (InstanceKey.text_injective hij)).2

lemma nodup_allInstanceTexts : r.allInstanceTexts.Nodup := by
  refine List.nodup_flatMap.mpr ⟨fun e _ => h.nodup_instanceTexts (t := e.1), ?_⟩
  refine (List.pairwise_map.mp h.instances_nodup).imp fun hne => ?_
  refine List.disjoint_left.mpr ?_
  intro key ha hb
  exact hne ((h.template_instanceText ha).symm.trans (h.template_instanceText hb))

lemma instance?_node (hn : n ∈ p.nodeIds) : r.instance? n = none := by
  cases hf : r.instance? n with
  | none => rfl
  | some k =>
    obtain ⟨hk, rfl⟩ := (instance?_eq_some_iff h.instances_nodup).mp hf
    exact absurd hn (h.instance_ne hk)

lemma whole_of_not_node (hn : n ∉ p.nodeIds) : r.hasInstances n = false := by
  rw [hasInstances_eq_false]
  cases hf : Keyed.find? r.instances n with
  | none => rfl
  | some is => exact absurd (h.counted hf).1 hn

lemma effective_iff : key ∈ r.effectiveKeys ↔
    key ∈ Keyed.keys r.states ∧ r.hasInstances key = false := by
  rw [h.mem_effectiveKeys]
  constructor
  · rintro ⟨n, hn, hk⟩
    rw [keysOf] at hk
    split at hk
    · obtain ⟨k, hreg, _, rfl⟩ := mem_instanceTexts.mp hk
      exact ⟨h.instance_mem hreg, h.whole_of_not_node (h.instance_ne hreg)⟩
    · rename_i hwhole
      obtain rfl := List.mem_singleton.mp hk
      exact ⟨h.node_mem hn, by simpa using hwhole⟩
  · rintro ⟨hk, hwhole⟩
    refine ⟨r.template key, h.template_mem hk, ?_⟩
    rcases h.key_cases hk with hn | ⟨k, hreg, rfl⟩
    · simp [h.template_node hn, keysOf, hwhole]
    · have hmem : k.text ∈ Engine.instanceTexts r (r.template k.text) :=
        mem_instanceTexts.mpr ⟨k, hreg, (template_text h.instances_nodup hreg).symm, rfl⟩
      rwa [keysOf, if_pos (hasInstances_of_mem hmem)]

lemma template_of_place {x : String} (hk : key ∈ Keyed.keys r.states)
    (hx : x ∈ if r.allInstanceTexts.contains key then []
      else if r.hasInstances key then (r.instanceKeys key).map (·.text) else [key]) :
    r.template x = key := by
  split at hx
  · cases hx
  · rename_i hinstance
    split at hx
    · exact h.template_instanceText hx
    · obtain rfl := List.mem_singleton.mp hx
      rcases h.key_cases hk with hn | hreg
      · exact h.template_node hn
      · exact absurd (List.contains_iff_mem.mpr (mem_allInstanceTexts.mpr hreg)) hinstance

lemma nodup_effectiveKeys : r.effectiveKeys.Nodup := by
  refine List.nodup_flatMap.mpr ⟨fun key _ => ?_, ?_⟩
  · split
    · exact List.nodup_nil
    · split
      · exact h.nodup_instanceTexts
      · exact List.nodup_singleton key
  · refine h.keys_nodup.imp_of_mem fun ha hb hne => ?_
    refine List.disjoint_left.mpr ?_
    intro x hxa hxb
    exact hne ((h.template_of_place ha hxa).symm.trans (h.template_of_place hb hxb))

lemma keys_perm (hnodes : p.nodeIds.Nodup) :
    (Keyed.keys r.states).Perm (p.nodeIds ++ r.allInstanceTexts) := by
  have hnodup : (p.nodeIds ++ r.allInstanceTexts).Nodup := by
    refine hnodes.append h.nodup_allInstanceTexts fun key hn hk => ?_
    obtain ⟨k, hreg, rfl⟩ := mem_allInstanceTexts.mp hk
    exact h.instance_ne hreg hn
  refine (List.perm_ext_iff_of_nodup h.keys_nodup hnodup).mpr fun key => ?_
  rw [List.mem_append, mem_allInstanceTexts]
  refine ⟨h.key_cases, ?_⟩
  rintro (hn | ⟨k, hreg, rfl⟩)
  · exact h.node_mem hn
  · exact h.instance_mem hreg

lemma unambiguous (hnodes : p.nodeIds.Nodup) : r.Unambiguous p where
  templates_nodup := h.instances_nodup
  counted _ he := h.counted (Keyed.find?_of_mem h.instances_nodup he)
  keys_nodup := h.keys_nodup
  keys_perm := h.keys_perm hnodes
  of_instance _ hk :=
    ⟨(instance?_eq_some_iff h.instances_nodup).mpr ⟨hk, rfl⟩, template_text h.instances_nodup hk⟩
  of_node _ hn := ⟨h.instance?_node hn, h.template_node hn⟩
  effective_nodup := h.nodup_effectiveKeys
  effective_iff _ := h.effective_iff
  counts := statusCounts_ok fun _ hk => exists_state (h.effective_iff.mp hk).1

end Sound

end Run

namespace Engine

variable {w : World} {id : String} {r : Run}

/-- Whatever operations there are, and whether they return or fail. -/
theorem keys_unambiguous (hw : Fresh w) (ops : List (Engine × Operation))
    (hr : (afterOperations w ops).store.run? id = some r) :
    ∃ v, (afterOperations w ops).store.version? r.versionId = some v ∧ r.Unambiguous v.plan := by
  have hsane := sane_afterOperations ops hw.sane
  obtain ⟨v, hv, hso, _⟩ := hsane.run hr
  exact ⟨v, hv, hso.unambiguous (hsane.compiled hv).nodup⟩

def lookalikes : Canvas where
  nodes? := some [.bare "split" .splitter [("array_path", .str "items")],
    .bare "work" .worker [("webhook_url", .str "http://worker")],
    .bare "work_2" .worker [("webhook_url", .str "http://worker")], .bare "join" .collector []]
  edges? := some [.bare "split" "work" [], .bare "work" "join" [], .bare "work_2" "join" []]

theorem lookalikes_unambiguous : ∃ (id : String) (r : Run), Fresh (.ofCanvas lookalikes) ∧
    (afterOperations (.ofCanvas lookalikes) [(accepting, .start "version" .byHand none
      (some [("items", .arr [.str "a"])]))]).store.run? id = some r ∧
    Keyed.keys r.states = ["split", "work", "work_2", "join", "work_0"] ∧
    r.effectiveKeys = ["split", "work_0", "work_2", "join"] ∧
    r.Unambiguous (.ofCanvas lookalikes []) := by
  have hw : Fresh (.ofCanvas lookalikes) :=
    fresh_ofCanvas (Canvas.compile_of_checks (by decide +kernel) (by decide +kernel)
      (by decide +kernel))
  obtain ⟨⟨id, w⟩, hstart, r, hr, hplan, hkeys, heffective⟩ := exists_of_any
    (x := accepting.startFor 20 "version" .byHand none
      (some [("items", .arr [.str "a"])])
      (.ofCanvas lookalikes))
    (P := fun x => ∃ r ∈ x.2.store.run? x.1,
      (x.2.store.version? r.versionId).map (·.plan) = some (.ofCanvas lookalikes []) ∧
      Keyed.keys r.states = ["split", "work", "work_2", "join", "work_0"] ∧
      r.effectiveKeys = ["split", "work_0", "work_2", "join"]) (by decide +kernel)
  have hend : afterOperations (.ofCanvas lookalikes) [(accepting, .start "version" .byHand none
      (some [("items", .arr [.str "a"])]))] = w :=
    (Operation.start_of_startFor hstart).1
  obtain ⟨v, hv, hr'⟩ := keys_unambiguous hw _ (hend ▸ hr)
  rw [hend] at hv
  simp only [hv, Option.map_some, Option.some.injEq] at hplan
  exact ⟨id, r, hw, hend ▸ hr, hkeys, heffective, hplan ▸ hr'⟩

end Engine

end Workflow
