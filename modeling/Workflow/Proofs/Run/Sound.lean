import Workflow.Plan.Basic
import Workflow.Proofs.Run.Write

/-! Rows that agree with their plan: every node has a state, and so has every instance. -/

namespace Workflow

namespace Run

structure Sound (p : Plan) (r : Run) : Prop where
  keys_nodup : (Keyed.keys r.states).Nodup
  instances_nodup : (Keyed.keys r.instances).Nodup
  node_mem : ∀ {n}, n ∈ p.nodeIds → n ∈ Keyed.keys r.states
  counted : ∀ {t is}, Keyed.find? r.instances t = some is → t ∈ p.nodeIds ∧ ∃ n, is = indices n
  instance_mem : ∀ {k}, r.Registered k → k.text ∈ Keyed.keys r.states
  instance_ne : ∀ {k}, r.Registered k → k.text ∉ p.nodeIds
  key_cases : ∀ {key}, key ∈ Keyed.keys r.states →
    key ∈ p.nodeIds ∨ ∃ k, r.Registered k ∧ k.text = key

inductive Allowed (p : Plan) (r : Run) : Write → Prop where
  | claim {key s} (hs : r.state? key = some s) (hm : s.status.canBecome .running = true) :
      Allowed p r (.move key (.toStatus .running))
  | park {key s n} (x : Json) (hs : r.state? key = some s) (hr : s.status = .running)
      (hn : p.node? (r.template key) = some n) (hk : n.kind = .ux) :
      Allowed p r (.move key (.finish .waitingForUser x))
  | complete {key s} (x : Json) (hs : r.state? key = some s) (hr : s.status = .running) :
      Allowed p r (.move key (.finish .completed x))
  | fail {key s} (e : String) (hs : r.state? key = some s) (hr : s.status = .running) :
      Allowed p r (.move key (.fail e))
  | spawn {key s n targets} (items : List Json) (hs : r.state? key = some s)
      (hr : s.status = .running) (hn : p.node? (r.template key) = some n)
      (hk : n.kind = .splitter) (hc : ∀ t ∈ targets, t ∈ p.children n.id)
      (hf : r.Spawnable targets items) : Allowed p r (.spawn key targets items)
  | note {e} (he : e.kind = .entityMoved) : Allowed p r (.note e)

inductive Lawful (p : Plan) (now : Instant) : Run → List Write → Prop where
  | nil {r} : Lawful p now r []
  | cons {r x rest} (h : r.Allowed p x) (hrest : Lawful p now (r.after now x) rest) :
      Lawful p now r (x :: rest)

variable {p : Plan} {now : Instant} {r : Run} {key t : String} {s : NodeState} {u : NodeUpdate}
  {targets : List String} {items : List Json}

namespace Lawful

variable {ws xs : List Write} {x : Write}

lemma one (h : r.Allowed p x) : Lawful p now r [x] := .cons h .nil

lemma append (h : Lawful p now r ws) (h' : Lawful p now (r.afterAll now ws) xs) :
    Lawful p now r (ws ++ xs) := by
  induction h with
  | nil => exact h'
  | cons hx _ ih => exact .cons hx (ih h')

end Lawful

lemma exists_state (h : key ∈ Keyed.keys r.states) : ∃ s, r.state? key = some s :=
  Keyed.exists_of_mem_keys h

lemma mem_keys_of_state? (h : r.state? key = some s) : key ∈ Keyed.keys r.states :=
  Keyed.mem_keys_of_find? h

lemma stateAt_of_state? (h : r.state? key = some s) : r.stateAt key = .ok s := by simp [stateAt, h]

namespace Sound

variable (h : r.Sound p)
include h

lemma template_node {n : String} (hn : n ∈ p.nodeIds) : r.template n = n :=
  template_of_unregistered h.instances_nodup fun _ hk he => h.instance_ne hk (he ▸ hn)

lemma template_mem (hk : key ∈ Keyed.keys r.states) : r.template key ∈ p.nodeIds := by
  rcases h.key_cases hk with hn | ⟨k, hreg, rfl⟩
  · rwa [h.template_node hn]
  · rw [template_text h.instances_nodup hreg]
    obtain ⟨is, hf, _⟩ := registered_iff.mp hreg
    exact (h.counted hf).1

lemma node_state {n : String} (hn : n ∈ p.nodeIds) : ∃ s, r.state? n = some s :=
  exists_state (h.node_mem hn)

lemma instance_state {k : InstanceKey} (hk : r.Registered k) : ∃ s, r.state? k.text = some s :=
  exists_state (h.instance_mem hk)

lemma text_state (hk : key ∈ Engine.instanceTexts r t) : ∃ s, r.state? key = some s := by
  obtain ⟨k, hreg, _, rfl⟩ := mem_instanceTexts.mp hk
  exact h.instance_state hreg

lemma template_instanceText (hk : key ∈ Engine.instanceTexts r t) : r.template key = t := by
  obtain ⟨k, hreg, rfl, rfl⟩ := mem_instanceTexts.mp hk
  exact template_text h.instances_nodup hreg

lemma known_instanceText (hk : key ∈ Engine.instanceTexts r t) :
    key ∈ Keyed.keys r.states ∧ r.template key = t := by
  obtain ⟨s, hs⟩ := h.text_state hk
  exact ⟨mem_keys_of_state? hs, h.template_instanceText hk⟩

lemma moved (hs : r.state? key = some s) : (r.moved now key u s).Sound p where
  keys_nodup := by rw [keys_moved hs]; exact h.keys_nodup
  instances_nodup := h.instances_nodup
  node_mem := by rw [keys_moved hs]; exact h.node_mem
  counted := h.counted
  instance_mem := by rw [keys_moved hs]; exact h.instance_mem
  instance_ne := h.instance_ne
  key_cases := by rw [keys_moved hs]; exact h.key_cases

lemma update : (r.update now key u).Sound p := by
  unfold Run.update
  cases hs : r.state? key with
  | none => exact h
  | some s => exact h.moved hs

end Sound

lemma registered_fanned {k : InstanceKey} (hf : r.Spawnable targets items) :
    (r.fanned targets items).Registered k ↔
      if k.template ∈ targets then ∃ j : Nat, j < items.length ∧ (j : Int) = k.index
      else r.Registered k := by
  rw [registered_iff, find?_instances_fanned hf]
  split
  · simp [mem_indices]
  · rw [registered_iff]

lemma keys_fanned :
    Keyed.keys (r.fanned targets items).states =
      Keyed.keys r.states ++ Keyed.keys (spawnedStates targets items) := by
  simp [fanned, Keyed.keys]

lemma Registered.not_mem_targets {k : InstanceKey} (hk : r.Registered k)
    (hf : r.Spawnable targets items) : k.template ∉ targets := by
  intro ht
  obtain ⟨is, hi, _⟩ := registered_iff.mp hk
  rw [hasInstances_eq_false.mp (hf.whole _ ht)] at hi
  cases hi

lemma Registered.fanned {k : InstanceKey} (hk : r.Registered k) (hf : r.Spawnable targets items) :
    (r.fanned targets items).Registered k := by
  rw [registered_fanned hf, if_neg (hk.not_mem_targets hf)]
  exact hk

lemma registered_update {k : InstanceKey} :
    (r.update now key u).Registered k ↔ r.Registered k := by
  rw [registered_iff, registered_iff, instances_update]

lemma Registered.after {k : InstanceKey} {x : Write} (hk : r.Registered k) (hx : r.Allowed p x) :
    (r.after now x).Registered k := by
  cases hx with
  | claim | park | complete | fail => exact registered_update.mpr hk
  | spawn items hs hr hn hkind hc hf => exact registered_update.mpr (hk.fanned hf)
  | note => exact hk

lemma instance_of_keys_fanned {k : InstanceKey} (hf : r.Spawnable targets items)
    (hk : k.text ∈ Keyed.keys r.states) :
    (r.fanned targets items).Registered k ↔ r.Registered k := by
  refine ⟨fun hreg => ?_, fun hreg => hreg.fanned hf⟩
  obtain ⟨t, i⟩ := k
  rw [registered_fanned hf] at hreg
  split at hreg
  · rename_i ht
    obtain ⟨j, hj, rfl⟩ := hreg
    exact absurd hk (hf.fresh t ht j hj)
  · exact hreg

lemma Spawnable.fresh_key (hf : r.Spawnable targets items)
    (hk : key ∈ Keyed.keys (spawnedStates targets items)) : key ∉ Keyed.keys r.states := by
  obtain ⟨t, ht, j, hj, rfl⟩ := mem_keys_spawnedStates.mp hk
  exact hf.fresh t ht j hj

lemma mem_keys_spawnedStates_of_index {k : InstanceKey} (ht : k.template ∈ targets)
    (hk : ∃ j : Nat, j < items.length ∧ (j : Int) = k.index) :
    k.text ∈ Keyed.keys (spawnedStates targets items) := by
  obtain ⟨t, i⟩ := k
  obtain ⟨j, hj, rfl⟩ := hk
  exact mem_keys_spawnedStates.mpr ⟨t, ht, j, hj, rfl⟩

namespace Sound

lemma fanned (h : r.Sound p) (ht : ∀ t ∈ targets, t ∈ p.nodeIds)
    (hf : r.Spawnable targets items) : (r.fanned targets items).Sound p where
  keys_nodup := by
    rw [keys_fanned, List.nodup_append]
    refine ⟨h.keys_nodup, nodup_keys_spawnedStates hf.nodup items, ?_⟩
    rintro a ha b hb rfl
    exact hf.fresh_key hb ha
  instances_nodup := by
    have hk : Keyed.keys (r.fanned targets items).instances =
        Keyed.keys r.instances ++ targets := by
      simp [Run.fanned, Keyed.keys, Function.comp_def]
    rw [hk, List.nodup_append]
    refine ⟨h.instances_nodup, hf.nodup, ?_⟩
    rintro a ha b hb rfl
    have hw := hf.whole a hb
    rw [hasInstances_eq_false, Keyed.find?_eq_none_iff] at hw
    exact hw ha
  node_mem hn := by
    rw [keys_fanned, List.mem_append]
    exact .inl (h.node_mem hn)
  counted {t is} hfind := by
    rw [find?_instances_fanned hf] at hfind
    split at hfind
    · rename_i htm
      exact ⟨ht t htm, items.length, (Option.some.inj hfind).symm⟩
    · exact h.counted hfind
  instance_mem hk := by
    rw [keys_fanned, List.mem_append]
    rw [registered_fanned hf] at hk
    split at hk
    · rename_i htm
      exact .inr (mem_keys_spawnedStates_of_index htm hk)
    · exact .inl (h.instance_mem hk)
  instance_ne hk hn := by
    rw [registered_fanned hf] at hk
    split at hk
    · rename_i htm
      exact hf.fresh_key (mem_keys_spawnedStates_of_index htm hk) (h.node_mem hn)
    · exact h.instance_ne hk hn
  key_cases {key} hk := by
    rw [keys_fanned, List.mem_append] at hk
    rcases hk with hk | hk
    · rcases h.key_cases hk with hn | ⟨k, hk', rfl⟩
      · exact .inl hn
      · exact .inr ⟨k, hk'.fanned hf, rfl⟩
    · obtain ⟨t, htm, j, hj, rfl⟩ := mem_keys_spawnedStates.mp hk
      refine .inr ⟨⟨t, j⟩, (registered_fanned hf).mpr ?_, rfl⟩
      rw [if_pos htm]
      exact ⟨j, hj, rfl⟩

lemma after (hp : ∀ {s c}, c ∈ p.children s → c ∈ p.nodeIds) (h : r.Sound p) {x : Write}
    (hx : r.Allowed p x) : (r.after now x).Sound p := by
  cases hx with
  | claim | park | complete | fail => exact h.update
  | spawn items hs hr hn hk hc hf => exact (h.fanned (fun t ht => hp (hc t ht)) hf).update
  | note => exact h

lemma afterAll (hp : ∀ {s c}, c ∈ p.children s → c ∈ p.nodeIds) (h : r.Sound p) {ws : List Write}
    (hw : Lawful p now r ws) : (r.afterAll now ws).Sound p := by
  induction hw with
  | nil => exact h
  | cons hx _ ih => exact ih (h.after hp hx)

@[simp] lemma template_update {k : String} : (r.update now k u).template key = r.template key := by
  simp [template, instance?]

lemma template_fanned (h : r.Sound p) (ht : ∀ t ∈ targets, t ∈ p.nodeIds)
    (hf : r.Spawnable targets items) (hk : key ∈ Keyed.keys r.states) :
    (r.fanned targets items).template key = r.template key := by
  have hsound := h.fanned ht hf
  rcases h.key_cases hk with hn | ⟨k, hreg, rfl⟩
  · rw [h.template_node hn, hsound.template_node hn]
  · rw [template_text h.instances_nodup hreg,
      template_text hsound.instances_nodup ((instance_of_keys_fanned hf hk).mpr hreg)]

lemma template_after (hp : ∀ {s c}, c ∈ p.children s → c ∈ p.nodeIds) (h : r.Sound p) {x : Write}
    (hx : r.Allowed p x) (hk : key ∈ Keyed.keys r.states) :
    (r.after now x).template key = r.template key := by
  cases hx with
  | claim | park | complete | fail => exact template_update
  | note => rfl
  | spawn items hs hr hn hk' hc hf =>
    exact template_update.trans (h.template_fanned (fun t ht => hp (hc t ht)) hf hk)

lemma mem_keys_after {x : Write} (hx : r.Allowed p x) (hk : key ∈ Keyed.keys r.states) :
    key ∈ Keyed.keys (r.after now x).states := by
  have hupdate : ∀ q : Run, ∀ k u, key ∈ Keyed.keys q.states →
      key ∈ Keyed.keys (q.update now k u).states := by
    intro q k u hq
    unfold Run.update
    cases hs : q.state? k with
    | none => exact hq
    | some s => simpa only [Option.elim_some, keys_moved hs] using hq
  cases hx with
  | claim | park | complete | fail => exact hupdate r _ _ hk
  | note => exact hk
  | spawn items =>
    refine hupdate _ _ _ ?_
    rw [keys_fanned, List.mem_append]
    exact .inl hk

lemma template_afterAll (hp : ∀ {s c}, c ∈ p.children s → c ∈ p.nodeIds) (h : r.Sound p)
    {ws : List Write} (hw : Lawful p now r ws) (hk : key ∈ Keyed.keys r.states) :
    (r.afterAll now ws).template key = r.template key := by
  induction hw with
  | nil => rfl
  | cons hx _ ih =>
    exact (ih (h.after hp hx) (mem_keys_after hx hk)).trans (h.template_after hp hx hk)

lemma mem_keys_afterAll {ws : List Write} (hw : Lawful p now r ws)
    (hk : key ∈ Keyed.keys r.states) : key ∈ Keyed.keys (r.afterAll now ws).states := by
  induction hw with
  | nil => exact hk
  | cons hx _ ih => exact ih (mem_keys_after hx hk)

lemma forall_afterAll {l : List String} {t : String} {ws : List Write}
    (hp : ∀ {s c}, c ∈ p.children s → c ∈ p.nodeIds) (h : r.Sound p) (hw : Lawful p now r ws)
    (hl : ∀ k ∈ l, k ∈ Keyed.keys r.states ∧ r.template k = t) :
    ∀ k ∈ l, k ∈ Keyed.keys (r.afterAll now ws).states ∧ (r.afterAll now ws).template k = t := by
  intro k hk
  obtain ⟨hmem, ht⟩ := hl k hk
  exact ⟨mem_keys_afterAll hw hmem, (h.template_afterAll hp hw hmem).trans ht⟩

end Sound

end Run

end Workflow
