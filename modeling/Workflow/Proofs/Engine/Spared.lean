import Workflow.Proofs.Engine.Passage

/-! Splitters that are retried: an instance that has failed fails again, and so a node behind a
splitter is not fanned out any more once it is begun. -/

namespace Workflow.Engine

open Run (Lawful)
open Store (holdsRevision Refuses)

structure Spared (p : Plan) (r : Run) : Prop where
  own : ∀ {t}, t ∈ p.nodeIds → r.hasInstances t = true → r.Has t .pending
  doomed : ∀ {k n v mapping input items}, r.Registered k → p.node? k.template = some n →
    n.kind = .splitter → r.shown? k.text = some v → v.status = .failed →
    itemMapping p k.template (p.parents k.template) = .ok mapping →
    Mapping.instanceInput v.output mapping = .ok input → splitItems n k.text input = .ok items →
    ¬ r.Spawnable (p.fannedOut n.id) items

variable {p : Plan} {now : Instant} {r r' snap : Run} {n : PlanNode} {key t : String} {x : Json}
  {k : InstanceKey} {source : Status} {ws : List Write} {o : Outcome} {m : Message}
  {rest : List Message} {mapping : Mapping} {u v : Shown} {items : List Json}

lemma Spared.whole (hs : Spared p r) (ht : t ∈ p.nodeIds) (hb : r.Begun t) :
    r.hasInstances t = false := by
  obtain ⟨st, hne, hst⟩ := hb
  by_contra hi
  exact hne (hst.unique (hs.own ht (by simpa using hi)))

namespace Stirs

variable (h : Stirs p n key r r')

lemma registered (hso : r.Sound p) (hso' : r'.Sound p) (hk : r'.Registered k)
    (hmem : k.text ∈ Keyed.keys r.states) : r.Registered k := by
  rcases hso.key_cases hmem with hnode | ⟨j, hj, he⟩
  · exact absurd hnode (hso'.instance_ne hk)
  · exact InstanceKey.text_injective he ▸ hj

include h in
lemma spawnable {targets : List String} {items : List Json} (hs : r'.Spawnable targets items) :
    r.Spawnable targets items where
  nodup := hs.nodup
  whole t ht := h.whole (hs.whole t ht)
  fresh t ht j hj hk := hs.fresh t ht j hj (h.stable hk).1

include h in
lemma spared (hwf : p.WellFormed) (hso : r.Sound p) (hso' : r'.Sound p) (hs : Spared p r)
    (hn : p.node? (r.template key) = some n) (hmem : key ∈ Keyed.keys r.states)
    (hkey : ∀ t ∈ p.nodeIds, r.hasInstances t = true → t ≠ key)
    (hnew : ∀ {t}, r'.hasInstances t = true → r.hasInstances t = false → r.Has t .pending)
    (hfail : ∀ {k v mapping input items}, r.Registered k → k.text = key → n.kind = .splitter →
      r'.shown? key = some v → v.status = .failed →
      itemMapping p n.id (p.parents n.id) = .ok mapping →
      Mapping.instanceInput v.output mapping = .ok input → splitItems n key input = .ok items →
      ¬ r'.Spawnable (p.fannedOut n.id) items) : Spared p r' where
  own {t} ht hi := by
    by_cases hold : r.hasInstances t = true
    · exact (h.has_iff (hkey t ht hold) (hso.node_mem ht)).mpr (hs.own ht hold)
    · obtain ⟨_, hfan⟩ := (h.fanned hi).resolve_left hold
      have hne : t ≠ key := by
        rintro rfl
        rw [hso.template_node ht] at hn
        rw [hwf.id_eq hn] at hfan
        exact hwf.not_mem_children (Plan.mem_fannedOut.mp hfan).1
      exact (h.has_iff hne (hso.node_mem ht)).mpr (hnew hi (by simpa using hold))
  doomed {k m v mapping input items} hk hm hkind hv hst hmap hin hsplit := by
    by_cases hkt : k.text = key
    · subst hkt
      have hreg := registered hso hso' hk hmem
      rw [Run.template_text hso.instances_nodup hreg] at hn
      obtain rfl := Option.some.inj (hn.symm.trans hm)
      exact hfail hreg rfl hkind hv hst (by rwa [hwf.id_eq hn]) hin hsplit
    · rcases h.others hkt with heq | ⟨_, u, hu, hpend⟩
      · rw [heq] at hv
        have hreg := registered hso hso' hk (Run.mem_keys_of_shown? hv)
        exact fun hsp => hs.doomed hreg hm hkind hv hst hmap hin hsplit (h.spawnable hsp)
      · obtain rfl := Option.some.inj (hu.symm.trans hv)
        rw [hpend] at hst
        cases hst

end Stirs

lemma Worked.spawned (h : Worked p r n key x ws o) (hold : r.hasInstances t = false)
    (hi : (r.afterAll now ws).hasInstances t = true) : n.kind = .splitter ∧
      ∃ items, splitItems n key x = .ok items ∧ r.Spawnable (p.fannedOut n.id) items := by
  cases h with
  | sent =>
    rw [Run.afterAll_nil, hold] at hi
    cases hi
  | parked | unsplit | whole | rejected | uncollected | collected =>
    rw [Run.afterAll_cons, Run.afterAll_nil, Run.after, Run.hasInstances_update, hold] at hi
    cases hi
  | split hk hs _ hsp => exact ⟨hk, _, hs, hsp⟩

lemma Worked.refused (h : Worked p r n key x ws o) (hkind : n.kind = .splitter)
    (hu : r.shown? key = some u)
    (hv : (r.afterAll now ws).shown? key = some v) (hst : v.status = .failed) :
    v.output = u.output ∧ ∀ {items}, splitItems n key x = .ok items →
      ¬ (r.afterAll now ws).Spawnable (p.fannedOut n.id) items := by
  obtain ⟨s, hs, _⟩ := Run.has_of_shown? hu
  have hmoved : ∀ {q : Run} {y : NodeUpdate}, q.shown? key = some u →
      (q.update now key y).shown? key = some v → showAfter y u = v := by
    intro q y hq hy
    rw [shown?_update_self hq] at hy
    exact Option.some.inj hy
  cases h with
  | sent hk | parked hk | uncollected hk | collected hk => simp [hkind] at hk
  | unsplit _ hno =>
    obtain rfl := hmoved hu hv
    refine ⟨rfl, fun hi => ?_⟩
    rw [hno] at hi
    cases hi
  | rejected _ hitems _ hf =>
    obtain rfl := hmoved hu hv
    refine ⟨rfl, fun hi hsp => hf.not_spawnable ?_⟩
    obtain rfl := Except.ok.inj (hitems.symm.trans hi)
    exact (Run.spawnable_update_iff hs).mp hsp
  | whole =>
    obtain rfl := hmoved hu hv
    cases hst
  | @split items =>
    have hfan : (r.fanned (p.fannedOut n.id) items).shown? key = some u := by
      rw [shown?_fanned, hu]
      rfl
    obtain rfl := hmoved hfan hv
    cases hst

section Started

variable (hwf : p.WellFormed) (hso : r.Sound p) (hs : Spared p r)
include hwf hso hs

omit hwf in
lemma Spared.node_of_spawn (h : Started p now r n key x .failed ws o)
    (hn : p.node? (r.template key) = some n)
    (hx : ∀ {k v}, r.Registered k → k.text = key → r.shown? key = some v → v.status = .failed →
      ∃ mapping, itemMapping p k.template (p.parents k.template) = .ok mapping ∧
        Mapping.instanceInput v.output mapping = .ok x)
    (hold : r.hasInstances t = false) (hi : (r.afterAll now ws).hasInstances t = true) :
    key ∈ p.nodeIds := by
  cases h with
  | skipped =>
    rw [Run.afterAll_nil, hold] at hi
    cases hi
  | @worked ws o hhas hw =>
    obtain ⟨hkind, items, hitems, hsp⟩ := hw.spawned (Run.hasInstances_update.trans hold) hi
    obtain ⟨u, hu, hst⟩ := Run.has_iff_shown.mp hhas
    obtain ⟨a, ha, _⟩ := id hhas
    rcases hso.key_cases (Run.mem_keys_of_state? ha) with hnode | ⟨k, hreg, rfl⟩
    · exact hnode
    · obtain ⟨mapping, hmap, hin⟩ := hx hreg rfl hu hst
      rw [Run.template_text hso.instances_nodup hreg] at hn
      exact absurd ((Run.spawnable_update_iff ha).mp hsp)
        (hs.doomed hreg hn hkind hu hst hmap hin hitems)

lemma Started.spared (hf : Fit p r) (h : Started p now r n key x source ws o)
    (hl : Lawful p now r ws)
    (hn : p.node? (r.template key) = some n)
    (hsource : source = .pending ∧ key ∈ r.keysOf n.id ∨ source = .failed)
    (hx : ∀ {k v}, r.Registered k → k.text = key → r.shown? key = some v → v.status = source →
      ∃ mapping, itemMapping p k.template (p.parents k.template) = .ok mapping ∧
        Mapping.instanceInput v.output mapping = .ok x) : Spared p (r.afterAll now ws) := by
  -- A key is fired, or it is retried: then it is begun, and so it is none of what a splitter has
  -- fanned out.
  by_cases hhas : r.Has key source
  · have hstirs := h.stirs hwf hso hhas hn
    obtain ⟨u, hu, hst⟩ := Run.has_iff_shown.mp hhas
    obtain ⟨a, ha, _⟩ := id hhas
    have hid := hwf.id_eq hn
    refine hstirs.spared hwf hso (hso.afterAll hwf.child_mem hl) hs hn (Run.mem_keys_of_state? ha)
      ?_ ?_ ?_
    · rintro t ht hi rfl
      rcases hsource with ⟨rfl, hk⟩ | rfl
      · rw [hid, hso.template_node ht, Run.keysOf, if_pos hi] at hk
        exact hso.instanceText_ne hk ht
      · exact absurd (hhas.unique (hs.own ht hi)) (by simp)
    · intro t hi hold
      obtain ⟨hkind, hfan⟩ := (hstirs.fanned hi).resolve_left (by simp [hold])
      by_contra hp
      obtain ⟨his, hnone⟩ := hf.late (hid ▸ hn) hkind hfan hold hp
      rcases hsource with ⟨rfl, hk⟩ | rfl
      · rw [Run.keysOf, if_pos his] at hk
        exact hnone key hk hhas
      · have hnode := hs.node_of_spawn hso h hn hx hold hi
        rw [hid, hso.template_node hnode] at his
        exact absurd (hhas.unique (hs.own hnode his)) (by simp)
    · intro k v mapping input items hreg hkt hkind hv hfailed hmap hin hitems
      cases h with
      | skipped hno => exact absurd hhas hno
      | worked _ hw =>
        have hclaimed : (r.update now key (.toStatus .running)).shown? key =
            some (showAfter (.toStatus .running) u) := shown?_update_self hu
        obtain ⟨hout, hno⟩ := hw.refused hkind hclaimed hv hfailed
        obtain ⟨mapping', hmap', hin'⟩ := hx hreg hkt hu hst
        rw [← hkt, Run.template_text hso.instances_nodup hreg] at hid
        rw [hid] at hmap
        obtain rfl := Except.ok.inj (hmap.symm.trans hmap')
        rw [hout] at hin
        obtain rfl := Except.ok.inj (hin.symm.trans hin')
        exact hno hitems
  · cases h with
    | skipped => exact hs
    | worked hno => exact absurd hno hhas

end Started

section Endures

variable (hwf : p.WellFormed)
include hwf

lemma FiredSome.spared {l : List String} (h : FiredSome p now snap n mapping r l ws)
    (hso : r.Sound p) (hf : Fit p r) (hs : Spared p r) (hn : p.node? n.id = some n)
    (hready : r.Ready p n.id) (hi : r.hasInstances n.id = true)
    (hm : itemMapping p n.id (p.parents n.id) = .ok mapping)
    (hl : ∀ k ∈ l, k ∈ instanceTexts r n.id)
    (hsnap : ∀ k ∈ l, r.Has k .pending → r.shown? k = snap.shown? k)
    (hrev : holdsRevision (r.afterAll now ws).revision = true) : Spared p (r.afterAll now ws) := by
  induction h with
  | stopped => exact hs
  | interrupted h =>
    rcases h.row with heq | hno
    · rwa [heq]
    · rw [hno] at hrev
      cases hrev
  | passed _ ih =>
    exact ih hso hf hs hready hi (List.forall_mem_cons.mp hl).2 (List.forall_mem_cons.mp hsnap).2
      hrev
  | @fired r key rest s x ws ws' o hstate hin hw _ ih =>
    obtain ⟨hkey, hrest⟩ := List.forall_mem_cons.mp hl
    obtain ⟨hsame, hsnap'⟩ := List.forall_mem_cons.mp hsnap
    have ht := hso.template_instanceText hkey
    have hk : key ∈ r.keysOf n.id := by rwa [Run.keysOf, if_pos hi]
    have hlaw : Lawful p now r ws := hw.lawful (by rwa [ht]) rfl
    have ha := hw.announces hwf hso (by rwa [ht])
    obtain ⟨hf', hstay⟩ := hw.steady hwf hso hf hn hk hready
    have htexts := ha.instanceTexts hi
    have hs' : Spared p (r.afterAll now ws) := by
      refine hw.spared hwf hso hs hf hlaw (by rwa [ht]) (.inl ⟨rfl, hk⟩) ?_
      rintro k v hreg rfl hv hpend
      have hshown := (hv.symm.trans (hsame (hpend ▸ Run.has_of_shown? hv))).trans
        (Run.shown?_of_state? hstate)
      rw [Run.template_text hso.instances_nodup hreg] at ht
      exact ⟨mapping, ht ▸ hm, Option.some.inj hshown ▸ hin⟩
    rw [Run.afterAll_append] at hrev ⊢
    refine ih (hso.afterAll hwf.child_mem hlaw) hf' hs' (hstay hready) (ha.hasInstances hi)
      (fun k hk => htexts ▸ hrest k hk) (fun k hk hp => ?_) hrev
    have hne : k ≠ key := by
      rintro rfl
      exact hw.not_pending hwf hso (by rwa [ht]) hp
    obtain ⟨a, hak⟩ := hso.text_state (hrest k hk)
    rcases hw.others hne with heq | ⟨hnone, _⟩
    · exact heq.trans (hsnap' k hk ((Run.has_congr heq).mp hp))
    · rw [Run.shown?_of_state? hak] at hnone
      cases hnone

lemma endures_spared :
    Endures p fun r => holdsRevision r.revision = true → Spared p r := by
  -- A retried instance of a splitter is refused again, and a node behind it is begun only once all
  -- instances of the splitter have ended.
  constructor
  · intro now r m rest ws o hso hrev hf hq hm hl hs hend
    have hs := hs hrev
    have hanswer : (∃ key c, m = .callback key c) ∨ (∃ key x, m = .resume key x) →
        Spared p (r.afterAll now ws) := by
      intro hm'
      rcases hm.answer_stirs hwf hso hf hm' with heq | ⟨n, key, st, hn, hkind, hst, hne, hstirs⟩
      · rwa [heq]
      · obtain ⟨a, ha, _⟩ := id hst
        refine hstirs.spared hwf hso (hso.afterAll hwf.child_mem hl) hs hn
          (Run.mem_keys_of_state? ha) ?_ ?_ fun _ _ h => absurd h hkind
        · rintro t ht hi rfl
          exact hne (hst.unique (hs.own ht hi))
        · intro t hi hold
          rcases hstirs.fanned hi with h | ⟨h, _⟩
          · rw [hold] at h
            cases h
          · exact absurd h hkind
    cases hm with
    | walked | strayed | missing | hollow | ignored | reconciled => exact hs
    | reported hhas hnotes => exact hanswer (.inl ⟨_, _, rfl⟩)
    | resumed hhas => exact hanswer (.inr ⟨_, _, rfl⟩)
    | @instances id n mapping _ _ hn hi _ hmap hfired =>
      obtain rfl := hwf.id_eq hn
      exact hfired.firedSome.spared hwf hso hf hs hn hq.ready hi hmap (fun _ hk => hk)
        (fun _ _ _ => rfl) hend
    | @whole id n x _ _ hn hi _ hw =>
      obtain rfl := hwf.id_eq hn
      have hmem := Plan.mem_nodeIds_iff.mpr ⟨n, hn⟩
      refine hw.spared hwf hso hs hf hl (by rwa [hso.template_node hmem])
        (.inl ⟨rfl, by simp [Run.keysOf, hi]⟩) fun hreg hk => ?_
      exact absurd (hk ▸ hmem) (hso.instance_ne hreg)
    | @retried key n s x _ _ hstate hst hn hin hw =>
      refine hw.spared hwf hso hs hf hl hn (.inr rfl) ?_
      rintro k v hreg rfl hv _
      obtain rfl := Option.some.inj ((Run.shown?_of_state? hstate).symm.trans hv)
      exact inputFor_instance hso hreg hin
  · intro now r m rest ws hso hrev hf hq hm hl hs hend
    have hs := hs hrev
    have hrow : ∀ {n key source}, Interrupted now r n key source ws →
        Spared p (r.afterAll now ws) := by
      intro n key source h
      rcases h.row with heq | hno
      · rwa [heq]
      · rw [hno] at hend
        cases hend
    cases hm with
    | unwritten => exact hs
    | @instances id n mapping _ hn hi hmap hfired =>
      obtain rfl := hwf.id_eq hn
      exact hfired.spared hwf hso hf hs hn hq.ready hi hmap (fun _ hk => hk) (fun _ _ _ => rfl) hend
    | whole _ _ h | retried _ h => exact hrow h
    | resumed _ hno =>
      have hrow : holdsRevision (r.update now _ (.toStatus .running)).revision = true := hend
      rw [hno] at hrow
      cases hrow

omit hwf in
lemma spared_newRun {v : FlowVersion} {id : String} {trigger : Trigger}
    {entityId : Option String} : Spared v.plan (newRun id v trigger entityId now) where
  own _ hi := by cases hi
  doomed hk := by
    obtain ⟨is, hf, _⟩ := Run.registered_iff.mp hk
    cases hf

end Endures

end Workflow.Engine
