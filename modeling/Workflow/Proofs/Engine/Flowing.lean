import Workflow.Proofs.Engine.FanOut
import Workflow.Proofs.Engine.Spared

/-! A node with one source that fans it out: it is not ready before, and once the queue is drained
its instances are begun. -/

namespace Workflow.Engine

open Run (Lawful)

variable {p : Plan} {now : Instant} {r snap : Run} {n : PlanNode} {key k s t : String}
  {ws : List Write} {o : Outcome} {m : Message} {rest : List Message} {mapping : Mapping}

lemma FiredAll.walk_mem {l : List String} (h : FiredAll p now snap n mapping r l ws o)
    (hk : .walk k ∈ o.messages) : k ∈ l := by
  induction h with
  | nil => cases hk
  | passed _ _ ih => exact List.mem_cons_of_mem _ (ih hk)
  | fired _ _ _ hw _ ih =>
    rcases List.mem_append.mp hk with hk | hk
    · exact hw.walk_key hk ▸ List.mem_cons_self
    · exact List.mem_cons_of_mem _ (ih hk)

lemma FiredAll.idle {l : List String} (h : FiredAll p now snap n mapping r l ws o)
    (hl : ∀ k ∈ l, ¬ snap.Has k .pending) : ws = [] ∧ o = .nothing := by
  induction h with
  | nil => exact ⟨rfl, rfl⟩
  | passed _ _ ih => exact ih (List.forall_mem_cons.mp hl).2
  | fired hs hp => exact absurd ⟨_, hs, hp⟩ (List.forall_mem_cons.mp hl).1

structure Flowing (p : Plan) (s t : String) (r : Run) (queue : List Message) : Prop where
  awaited : r.Open t → r.Ready p t → Awaited p r queue t
  spent : r.hasInstances s = true → ∀ k ∈ instanceTexts r s, ¬ r.Has k .pending

section Handled

variable (hwf : p.WellFormed) (hso : r.Sound p) (hspared : Spared p r) (hfed : p.parents t = [s])
include hwf hso hspared hfed

omit hso hspared in
lemma source_mem : s ∈ p.nodeIds :=
  hwf.parent_mem (hwf.parents_iff.mp (by rw [hfed]; exact List.mem_singleton_self s))

lemma Handled.spends (hcol : p.isCollector t = false) (h : Handled p now r m ws o)
    (hold : r.hasInstances t = false) (hi : (r.afterAll now ws).hasInstances t = true) :
    ¬ r.Ready p t ∧ ((r.afterAll now ws).hasInstances s = true →
      ∀ k ∈ instanceTexts (r.afterAll now ws) s, ¬ (r.afterAll now ws).Has k .pending) := by
  have ha := h.announces hwf hso
  have hsn := source_mem hwf hfed
  have hne : ws ≠ [] := by
    rintro rfl
    rw [Run.afterAll_nil, hold] at hi
    cases hi
  have hdone : r.Ready p t → r.Done p t s := fun hr => hr s (by simp [hfed])
  -- The key that is walked now belongs to the one source.
  obtain ⟨key, hmem, hwalk, ht⟩ := (ha.fanned hi).resolve_left (by simp [hold])
  rw [hfed, List.mem_singleton] at ht
  have hclosed : Handled p now r (.fire s) ws o → (r.afterAll now ws).hasInstances s = true →
      ∀ k ∈ instanceTexts (r.afterAll now ws) s, ¬ (r.afterAll now ws).Has k .pending := by
    intro hfire his k hk hp
    exact (hfire.closes hwf hso hsn).1 ⟨k, by rwa [Run.keysOf, if_pos his], hp⟩
  have hfire := h
  cases h with
  | walked | strayed | missing | hollow | ignored | reconciled => exact absurd rfl hne
  | reported _ hnotes =>
    rw [Run.afterAll_cons, afterAll_notes hnotes, Run.after, Run.hasInstances_update, hold] at hi
    cases hi
  | resumed =>
    rw [Run.afterAll_cons, Run.afterAll_cons, Run.afterAll_nil, Run.after, Run.after,
      Run.hasInstances_update, Run.hasInstances_update, hold] at hi
    cases hi
  | @instances id _ _ _ _ hn his _ _ hfired =>
    have hkey := hfired.walk_mem hwalk
    obtain ⟨a, hak⟩ := hso.text_state hkey
    rw [(ha.stable (Run.mem_keys_of_state? hak)).2, hso.template_instanceText hkey] at ht
    subst ht
    refine ⟨fun hr => hne (hfired.idle fun k hk hp => ?_).1, hclosed hfire⟩
    exact hp.not_settled rfl ((hdone hr).settled (by rwa [Run.keysOf, if_pos his]))
  | @whole id _ _ _ _ hn his _ hstart =>
    obtain rfl := hstart.walk_key hwalk
    have hnode := Plan.mem_nodeIds_iff.mpr ⟨_, hn⟩
    rw [(ha.stable (hso.node_mem hnode)).2, hso.template_node hnode] at ht
    subst ht
    refine ⟨fun hr => ?_, hclosed hfire⟩
    cases hstart with
    | skipped => exact hne rfl
    | worked hp => exact absurd (hp.unique ((hdone hr).completed his hcol)) (by simp)
  | @retried key' n a x _ _ hstate hst hn hin hw =>
    obtain rfl := hw.walk_key hwalk
    have hfailed : r.Has key .failed := ⟨a, hstate, hst⟩
    have hnode : key ∈ p.nodeIds := by
      refine hspared.node_of_spawn hso hw hn ?_ hold hi
      rintro k v hreg rfl hv _
      obtain rfl := Option.some.inj ((Run.shown?_of_state? hstate).symm.trans hv)
      exact inputFor_instance hso hreg hin
    rw [(ha.stable (hso.node_mem hnode)).2, hso.template_node hnode] at ht
    subst ht
    have his := hspared.whole hnode ⟨_, by simp, hfailed⟩
    refine ⟨fun hr => ?_, fun hnew => ?_⟩
    · exact absurd (hfailed.unique ((hdone hr).completed his hcol)) (by simp)
    · obtain ⟨_, hfan⟩ := ((hw.stirs hwf hso hfailed hn).fanned hnew).resolve_left (by simp [his])
      rw [hwf.id_eq hn, hso.template_node hnode] at hfan
      exact absurd (Plan.mem_fannedOut.mp hfan).1 hwf.not_mem_children

lemma Spun.source (hspun : Spun p r) (hi : r.hasInstances t = true) :
    ∃ key ∈ r.keysOf s, r.Has key .completed := by
  obtain ⟨key, n, hn, _, hc, hdone⟩ := hspun t hi
  have hid : n.id = s := by simpa [hfed] using hwf.parents_iff.mpr hc
  have ht := (hwf.id_eq hn).symm.trans hid
  obtain ⟨a, ha, _⟩ := id hdone
  refine ⟨key, ?_, hdone⟩
  rcases hso.key_cases (Run.mem_keys_of_state? ha) with hnode | ⟨k, hreg, rfl⟩
  · rw [hso.template_node hnode] at ht
    subst ht
    have hwhole := hspared.whole hnode ⟨_, by simp, hdone⟩
    rw [Run.keysOf, if_neg (by simp [hwhole]), List.mem_singleton]
  · rw [Run.template_text hso.instances_nodup hreg] at ht
    have hmem := Run.mem_instanceTexts.mpr ⟨k, hreg, ht, rfl⟩
    rwa [Run.keysOf, if_pos (Run.Sound.hasInstances_of_mem hmem)]

lemma Handled.flows (hcol : p.isCollector t = false) (htn : t ∈ p.nodeIds) (hspun : Spun p r)
    (hj : r.hasInstances t = true → Flowing p s t r (m :: rest)) (hm : Handled p now r m ws o)
    (hl : Lawful p now r ws) (hspared' : Spared p (r.afterAll now ws))
    (hi : (r.afterAll now ws).hasInstances t = true) :
    Flowing p s t (r.afterAll now ws) (rest ++ o.messages) := by
  have ha := hm.announces hwf hso
  by_cases hold : r.hasInstances t = true
  · obtain ⟨hawaited, hspent⟩ := hj hold
    refine ⟨fun ho hr => Awaited.step hwf hso htn hawaited hm hl ho hr, fun his k hk hp => ?_⟩
    by_cases his₀ : r.hasInstances s = true
    · rw [ha.instanceTexts his₀] at hk
      obtain ⟨a, hak⟩ := hso.text_state hk
      exact ha.not_pending (Run.mem_keys_of_state? hak) (hspent his₀ k hk) hp
    · -- A source that was completed as a whole is not fanned out afterwards.
      obtain ⟨key, hkey, hc⟩ := Spun.source hwf hso hspared hfed hspun hold
      rw [Run.keysOf, if_neg his₀, List.mem_singleton] at hkey
      have hc' := Lasts.afterAll hwf ⟨fun _ hx h => has_completed_after hx h⟩ hso hl (hkey ▸ hc)
      exact absurd (hc'.unique (hspared'.own (source_mem hwf hfed) his)) (by simp)
  · obtain ⟨hnot, hspent⟩ := hm.spends hwf hso hspared hfed hcol (by simpa using hold) hi
    exact ⟨fun ho hr => Awaited.step hwf hso htn (fun _ h => absurd h hnot) hm hl ho hr, hspent⟩

lemma Flowing.ends (hf : Fit p r) (hs : ∃ n, p.node? s = some n ∧ n.kind = .splitter)
    (hspun : Spun p r) (hi : r.hasInstances t = true) (h : Flowing p s t r []) :
    r.Ready p t ∧ ¬ r.Open t ∧ ¬ Awaited p r [] t := by
  obtain ⟨key, hkey, hc⟩ := Spun.source hwf hso hspared hfed hspun hi
  have hready : r.Ready p t := by
    intro s' hs'
    rw [hfed, List.mem_singleton] at hs'
    subst hs'
    unfold Run.Done
    split
    · rename_i his
      intro k hk
      obtain ⟨n, hn, hkind⟩ := hs
      have ht := hso.template_instanceText hk
      obtain ⟨a, ha⟩ := hso.text_state hk
      have hnp := h.spent his k hk
      obtain ⟨hnr, hnw⟩ := hf.swift (ht ▸ hn) hkind
      rw [Run.has_iff ha] at hnp hnr hnw
      rw [Run.settled_iff ha]
      cases hst : a.status <;> simp_all [Status.isTerminal]
    · rename_i his
      rw [Run.keysOf, if_neg his, List.mem_singleton] at hkey
      exact .inl (hkey ▸ hc)
  have hnone : ¬ Awaited p r [] t := by
    intro hawaited
    obtain ⟨s', hs', hollow, _⟩ := hawaited.hollow_source
    rw [hfed, List.mem_singleton] at hs'
    subst hs'
    rw [Run.keysOf, if_pos (Run.hasInstances_of_hollow hollow), Run.instanceTexts_of_hollow hollow]
      at hkey
    cases hkey
  exact ⟨hready, fun ho => hnone (h.awaited ho hready), hnone⟩

end Handled

end Workflow.Engine
