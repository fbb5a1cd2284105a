import Workflow.Proofs.Engine.Account
import Workflow.Proofs.Engine.Awaited

/-! What a message does is a turn of keys of one node, and so the account of a run is kept. -/

namespace Workflow.Engine

open Run (Lawful SameAt)

variable {p : Plan} {payload : Keyed Json} {ans : Answers} {asked new : List Request}
  {now : Instant} {r r' r'' : Run} {n : PlanNode} {key k m id : String} {v : Shown}
  {targets : List String} {items : List Json} {held x : Json} {ws : List Write} {o : Outcome}
  {u : NodeUpdate}

lemma shown?_update (h : r.shown? key = some v) :
    (r.update now key u).shown? k = if k = key then some (showAfter u v) else r.shown? k := by
  obtain ⟨s, hs, rfl⟩ := Option.map_eq_some_iff.mp h
  rw [Run.update_eq hs, Run.shown?, Run.state?_moved]
  by_cases hk : key = k
  · rw [if_pos hk, if_pos hk.symm]
    rfl
  · rw [if_neg hk, if_neg (Ne.symm hk), Run.shown?]

lemma shown?_update_self (h : r.shown? key = some v) :
    (r.update now key u).shown? key = some (showAfter u v) := by
  rw [shown?_update h, if_pos rfl]

lemma shown?_update_of_ne (hk : k ≠ key) : (r.update now key u).shown? k = r.shown? k := by
  cases hs : r.state? key with
  | none => rw [Run.update, hs, Option.elim_none]
  | some s => rw [Run.update_eq hs, Run.shown?, Run.state?_moved, if_neg hk.symm, Run.shown?]

lemma shown?_fanned : (r.fanned targets items).shown? k =
    (r.shown? k).or ((Keyed.find? (spawnedStates targets items) k).map NodeState.shown) := by
  rw [Run.shown?, Run.state?_fanned, Run.shown?]
  cases r.state? k <;> rfl

lemma Turn.plain (hn : p.node? n.id = some n) (hk : key ∈ r.keysOf n.id) (hs : ¬ r.Settled key)
    (hr : r.Ready p n.id) (he : ∃ held x, Base p r n.id key held ∧ keyInput p r n held = .ok x ∧
      Explained p ans (asked ++ new) r n key held x v)
    (ha : ∀ q ∈ new, q.runId = r.id ∧ q.nodeKey = key) (ht : r.SameHeader r')
    (hi : r'.instances = r.instances)
    (hshown : ∀ k, r'.shown? k = if k = key then some v else r.shown? k)
    (hf : n.kind = .splitter ∧ v = ⟨.completed, .arr items, none⟩ ∧ p.fannedOut n.id = [] ∨
      ¬ (n.kind = .splitter ∧ v.status = .completed)) :
    Turn p ans asked new r r' n key v [] items where
  node := hn
  mem := hk
  unsettled := hs
  ready := hr
  explained := he
  asks := ha
  header := ht
  spawnable := ⟨List.nodup_nil, by simp, by simp⟩
  instances t := by simp [hi]
  shown k := by
    rw [hshown]
    cases r.shown? k <;> rfl
  fans := by
    rcases hf with ⟨hk, hv, ht⟩ | hno
    · exact .inl ⟨hk, hv, ht.symm⟩
    · exact .inr ⟨rfl, hno⟩

section Claimed

variable (hheld : r.shown? key = some ⟨.pending, held, none⟩)
include hheld

lemma shown?_claimed : (r.update now key (.toStatus .running)).shown? k =
    if k = key then some ⟨.running, held, none⟩ else r.shown? k := shown?_update hheld

lemma shown?_claimed_self :
    (r.update now key (.toStatus .running)).shown? key = some ⟨.running, held, none⟩ := by
  rw [shown?_claimed hheld, if_pos rfl]

lemma shown?_claimed_update : ((r.update now key (.toStatus .running)).update now key u).shown? k =
    if k = key then some (showAfter u ⟨.running, held, none⟩) else r.shown? k := by
  rw [shown?_update (shown?_claimed_self hheld), shown?_claimed hheld]
  split <;> rfl

variable (hwf : p.WellFormed) (hso : r.Sound p) (hn : p.node? n.id = some n)
  (hk : key ∈ r.keysOf n.id)

include hwf hso hn hk in
lemma collectValue_claimed :
    collectValue p (r.update now key (.toStatus .running)) n = collectValue p r n := by
  refine collectValue_congr fun s hs => ?_
  have hc := hwf.parents_iff.mp hs
  refine ⟨by rw [Run.instances_update], fun k hks => ?_⟩
  rw [Run.keysOf_congr (q := r) (by rw [Run.instances_update])] at hks
  rw [shown?_claimed hheld, if_neg]
  rintro rfl
  have hid : s = n.id := (hso.template_keysOf (hwf.parent_mem hc) hks).symm.trans
    (hso.template_keysOf (Plan.mem_nodeIds_iff.mpr ⟨n, hn⟩) hk)
  exact hwf.not_mem_children (hid ▸ hc)

variable (hr : r.Ready p n.id) (hb : Base p r n.id key held) (hx : keyInput p r n held = .ok x)
include hn hk hr hb hx

lemma Turn.claimed_sent {q : Request} (ht : Told p payload ans asked r) (hkind : n.kind = .worker)
    (hid : q.runId = (r.update now key (.toStatus .running)).id) (hq : q.nodeKey = key)
    (hi : q.input = x) :
    Turn p ans asked [q] r (r.update now key (.toStatus .running)) n key
      ⟨.running, held, none⟩ [] [] := by
  have hpending : r.Has key .pending := Run.has_of_shown? hheld
  have hall : ∀ q' ∈ asked ++ [q], q'.nodeKey = key → q'.input = x := by
    intro q' hq' he
    rcases List.mem_append.mp hq' with hq' | hq'
    · obtain ⟨_, w, hw, hst⟩ := ht.requests q' hq'
      exact absurd (Run.status_of_shown? (he ▸ hw) hpending) hst
    · rw [List.mem_singleton.mp hq', hi]
  have hasks : ∀ q' ∈ [q], q'.runId = r.id ∧ q'.nodeKey = key := by
    intro q' hq'
    rw [List.mem_singleton.mp hq']
    exact ⟨hid.trans Run.sameHeader_update.id, hq⟩
  exact .plain hn hk (hpending.not_settled rfl) hr ⟨held, x, hb, hx, .sent hkind hall⟩ hasks
    Run.sameHeader_update Run.instances_update (fun _ => shown?_claimed hheld) (.inr (by simp))

lemma Turn.claimed_update (items : List Json)
    (he : Explained p ans asked r n key held x (showAfter u ⟨.running, held, none⟩))
    (hf : n.kind = .splitter ∧ showAfter u ⟨.running, held, none⟩ = ⟨.completed, .arr items, none⟩ ∧
        p.fannedOut n.id = [] ∨
      ¬ (n.kind = .splitter ∧ (showAfter u ⟨.running, held, none⟩).status = .completed)) :
    Turn p ans asked [] r ((r.update now key (.toStatus .running)).update now key u) n key
      (showAfter u ⟨.running, held, none⟩) [] items :=
  .plain hn hk ((Run.has_of_shown? hheld).not_settled rfl) hr
    ⟨held, x, hb, hx, by simpa using he⟩ (by simp)
    (Run.sameHeader_update.trans Run.sameHeader_update)
    (Run.instances_update.trans Run.instances_update) (fun _ => shown?_claimed_update hheld) hf

lemma Turn.claimed_spawn (hkind : n.kind = .splitter) (hi : splitItems n key x = .ok items)
    (hsp : (r.update now key (.toStatus .running)).Spawnable (p.fannedOut n.id) items) :
    Turn p ans asked [] r
      ((r.update now key (.toStatus .running)).after now (.spawn key (p.fannedOut n.id) items))
      n key ⟨.completed, .arr items, none⟩ (p.fannedOut n.id) items where
  node := hn
  mem := hk
  unsettled := (Run.has_of_shown? hheld).not_settled rfl
  ready := hr
  explained := ⟨held, x, hb, hx, .split hkind hi⟩
  asks := by simp
  header := Run.sameHeader_update.trans (Run.sameHeader_after _)
  spawnable := by
    obtain ⟨s, hs, _⟩ := Run.has_of_shown? hheld
    exact (Run.spawnable_update_iff hs).mp hsp
  instances t := by
    change Keyed.find? (Run.update now key _ _).instances t = _
    rw [Run.instances_update, Run.find?_instances_fanned hsp, Run.instances_update]
  shown k := by
    have hfan : ((r.update now key (.toStatus .running)).fanned (p.fannedOut n.id)
        items).shown? key = some ⟨.running, held, none⟩ := by
      rw [shown?_fanned, shown?_claimed_self hheld]
      rfl
    change (Run.update now key _ _).shown? k = _
    rw [shown?_update hfan, shown?_fanned, shown?_claimed hheld]
    split <;> rfl
  fans := .inl ⟨hkind, rfl, rfl⟩

include hwf hso in
lemma Worked.turn (ht : Told p payload ans asked r)
    (h : Worked p (r.update now key (.toStatus .running)) n key x ws o) :
    ∃ v targets items, Turn p ans asked o.requests r
      ((r.update now key (.toStatus .running)).afterAll now ws) n key v targets items := by
  have hcollect : collectValue p (r.update now key (.toStatus .running)) n = collectValue p r n :=
    collectValue_claimed hheld hwf hso hn hk
  have hfailed : ∀ e, ¬ (n.kind = .splitter ∧
      (showAfter (.fail e) ⟨.running, held, none⟩).status = .completed) := by
    rintro e ⟨_, h⟩
    cases h
  cases h with
  | sent hkind hid hq hi =>
    exact ⟨_, [], [], .claimed_sent hheld hn hk hr hb hx ht hkind hid hq hi⟩
  | parked hkind =>
    exact ⟨_, [], [], .claimed_update hheld hn hk hr hb hx [] (.parked hkind)
      (.inr (by simp [hkind]))⟩
  | unsplit hkind hi =>
    exact ⟨_, [], [], .claimed_update hheld hn hk hr hb hx [] (.unsplit hkind hi)
      (.inr (hfailed _))⟩
  | whole hkind hi hnone =>
    exact ⟨_, [], _, .claimed_update hheld hn hk hr hb hx _ (.split hkind hi)
      (.inl ⟨hkind, rfl, hnone⟩)⟩
  | rejected hkind hi hne hf =>
    exact ⟨_, [], [], .claimed_update hheld hn hk hr hb hx [] (.rejected hkind hf.rejection)
      (.inr (hfailed _))⟩
  | split hkind hi hne hsp =>
    exact ⟨_, _, _, .claimed_spawn hheld hn hk hr hb hx hkind hi hsp⟩
  | uncollected hkind hc =>
    exact ⟨_, [], [], .claimed_update hheld hn hk hr hb hx []
      (.uncollected hkind (hcollect.symm.trans hc)) (.inr (hfailed _))⟩
  | collected hkind hc =>
    exact ⟨_, [], [], .claimed_update hheld hn hk hr hb hx []
      (.collected hkind (hcollect.symm.trans hc)) (.inr (by simp [hkind]))⟩

end Claimed

def Uniform (r : Run) (n : String) : Prop :=
  ∀ k ∈ r.keysOf n, ∀ k' ∈ r.keysOf n, r.Has k .pending → r.Has k' .pending

lemma uniform_of_not_open (h : ¬ r.Open n.id) : Uniform r n.id :=
  fun k hk _ _ hp => absurd ⟨k, hk, hp⟩ h

structure Onward (p : Plan) (payload : Keyed Json) (ans : Answers) (asked new : List Request)
    (r r' : Run) (id : String) : Prop where
  told : Told p payload ans (asked ++ new) r'
  ready : ∀ {m}, r.Ready p m → r'.Ready p m
  uniform : ∀ {m}, m ∈ p.nodeIds → m ≠ id → Uniform r m → Uniform r' m

namespace Onward

protected lemma refl (ht : Told p payload ans asked r) : Onward p payload ans asked [] r r id :=
  ⟨by simpa using ht, fun h => h, fun _ _ h => h⟩

protected lemma trans {new' : List Request} (h : Onward p payload ans asked new r r' id)
    (h' : Onward p payload ans (asked ++ new) new' r' r'' id) :
    Onward p payload ans asked (new ++ new') r r'' id :=
  ⟨by simpa using h'.told, fun hr => h'.ready (h.ready hr),
    fun hm hne hu => h'.uniform hm hne (h.uniform hm hne hu)⟩

end Onward

section Turn

variable (hwf : p.WellFormed) (hso : r.Sound p) (ht : Told p payload ans asked r)
  (h : Turn p ans asked new r r' n key v targets items)
include hso h

lemma Turn.pending_of_target (hm : m ∈ targets) (hk : k ∈ r'.keysOf m) : r'.Has k .pending := by
  have hf : Keyed.find? r'.instances m = some (indices items.length) := by
    rw [h.instances, if_pos hm]
  rw [Run.keysOf, if_pos (Run.hasInstances_iff.mpr ⟨_, hf⟩), Run.instanceTexts_of_find? hf,
    Store.firstInstances, List.mem_map] at hk
  obtain ⟨j, hj, rfl⟩ := hk
  have hfresh := h.spawnable.fresh m hm j (List.mem_range.mp hj)
  have hne : InstanceKey.text ⟨m, (j : Nat)⟩ ≠ key := fun he => hfresh (he ▸ h.key_mem hso)
  have hmem : InstanceKey.text ⟨m, (j : Nat)⟩ ∈ Keyed.keys (spawnedStates targets items) :=
    mem_keys_spawnedStates.mpr ⟨m, hm, j, List.mem_range.mp hj, rfl⟩
  obtain ⟨s, hs⟩ := Keyed.exists_of_mem_keys hmem
  obtain ⟨_, _, _, y, _, _, rfl⟩ := mem_spawnedStates.mp (Keyed.mem_of_find? hs)
  have hnone : r.shown? (InstanceKey.text ⟨m, (j : Nat)⟩) = none := by
    rw [Run.shown?, Option.map_eq_none_iff]
    exact Keyed.find?_eq_none_iff.mpr hfresh
  refine Run.has_iff_shown.mpr ⟨⟨.pending, y, none⟩, ?_, rfl⟩
  rw [h.shown, if_neg hne, hnone, hs]
  rfl

lemma Turn.uniform_other (hm : m ∈ p.nodeIds) (hne : m ≠ n.id) (hu : Uniform r m) :
    Uniform r' m := by
  by_cases hmt : m ∈ targets
  · exact fun k _ k' hk' _ => h.pending_of_target hso hmt hk'
  · have hsame := h.sameAt hso hm hne (by rw [h.instances, if_neg hmt])
    intro k hk k' hk' hp
    rw [← hsame.keysOf] at hk hk'
    rw [← Run.has_congr (hsame.keys k' hk')]
    exact hu k hk k' hk' ((Run.has_congr (hsame.keys k hk)).mpr hp)

include hwf in
lemma Turn.uniform_self (hnp : ¬ r.Has key .pending) (hu : Uniform r n.id) : Uniform r' n.id := by
  intro k hk k' _ hp
  have hne : k ≠ key := by
    rintro rfl
    exact absurd (Run.status_of_shown? h.shown_key hp) h.not_pending
  rw [Run.keysOf_congr (h.instances_of_ready hwf h.ready)] at hk
  obtain ⟨s, hs⟩ := hso.keysOf_state h.node_mem hk
  have hshown := h.shown_of_mem (Run.mem_keys_of_state? hs) hne
  exact absurd (hu k hk key h.mem ((Run.has_congr hshown).mp hp)) hnp

include hwf ht in
lemma Turn.onward (hso' : r'.Sound p) : Onward p payload ans asked new r r' n.id where
  told := ht.turn hwf hso h hso'
  ready := h.ready_after hwf hso ht
  uniform := h.uniform_other hso

end Turn

lemma exists_base (ht : Told p payload ans asked r) (hk : key ∈ r.keysOf n.id) :
    ∃ held, Base p r n.id key held := by
  by_cases hi : r.hasInstances n.id = true
  · obtain ⟨items, hs⟩ := ht.fanned hi
    rw [Run.keysOf, if_pos hi, Run.instanceTexts_of_find? (ht.spread hs), Store.firstInstances,
      List.mem_map] at hk
    obtain ⟨j, hj, rfl⟩ := hk
    exact ⟨_, .item hs (List.getElem?_eq_getElem (List.mem_range.mp hj))⟩
  · rw [Run.keysOf, if_neg hi, List.mem_singleton] at hk
    subst hk
    exact ⟨_, .whole (by simpa using hi)⟩

section Fired

variable (hwf : p.WellFormed) (hso : r.Sound p) (ht : Told p payload ans asked r)
  (hn : p.node? n.id = some n) (hr : r.Ready p n.id)
include hwf hso ht hn hr

lemma Started.turn (hk : key ∈ r.keysOf n.id) (hb : Base p r n.id key held)
    (hx : r.Has key .pending → keyInput p r n held = .ok x)
    (h : Started p now r n key x .pending ws o) :
    ws = [] ∧ o = .nothing ∨ ∃ v targets items,
      Turn p ans asked o.requests r (r.afterAll now ws) n key v targets items := by
  cases h with
  | skipped => exact .inl ⟨rfl, rfl⟩
  | worked hs hw =>
    have hmem := Plan.mem_nodeIds_iff.mpr ⟨n, hn⟩
    exact .inr (hw.turn (ht.held hmem hk hs hb) hwf hso hn hk hr hb (hx hs) ht)

omit ht hr in
lemma Started.sound (hk : key ∈ r.keysOf n.id) (h : Started p now r n key x .pending ws o) :
    (r.afterAll now ws).Sound p := by
  refine hso.afterAll hwf.child_mem (h.lawful ?_ rfl)
  rwa [hso.template_keysOf (Plan.mem_nodeIds_iff.mpr ⟨n, hn⟩) hk]

lemma FiredAll.onward {snap : Run} {mapping : Mapping} {l : List String}
    (hm : itemMapping p n.id (p.parents n.id) = .ok mapping) (hi : r.hasInstances n.id = true)
    (hl : ∀ k ∈ l, k ∈ instanceTexts r n.id)
    (hsnap : ∀ k ∈ l, r.Has k .pending → r.shown? k = snap.shown? k)
    (h : FiredAll p now snap n mapping r l ws o) :
    Onward p payload ans asked o.requests r (r.afterAll now ws) n.id := by
  induction h generalizing asked with
  | nil => exact .refl ht
  | passed _ _ ih =>
    exact ih hso ht hr hi (List.forall_mem_cons.mp hl).2 (List.forall_mem_cons.mp hsnap).2
  | @fired r key rest s input ws ws' o o' hs hp hin hw h ih =>
    obtain ⟨hkey, hrest⟩ := List.forall_mem_cons.mp hl
    obtain ⟨hsame, hsnap'⟩ := List.forall_mem_cons.mp hsnap
    have hmem := Plan.mem_nodeIds_iff.mpr ⟨n, hn⟩
    have hk : key ∈ r.keysOf n.id := by rwa [Run.keysOf, if_pos hi]
    obtain ⟨held, hb⟩ := exists_base ht hk
    -- A key that is still pending holds the item that `snap` has for it.
    have hx : r.Has key .pending → keyInput p r n held = .ok input := by
      intro hpend
      have hshown := (ht.held hmem hk hpend hb).symm.trans
        ((hsame hpend).trans (Run.shown?_of_state? hs))
      simp only [NodeState.shown, Option.some.injEq, Shown.mk.injEq] at hshown
      rw [keyInput, if_pos hi, hm]
      simp only [bind, Except.bind, hshown.2.1, hin]
      rfl
    have hso' := hw.sound hwf hso hn hk
    rw [Run.afterAll_append]
    rcases hw.turn hwf hso ht hn hr hk hb hx with ⟨rfl, rfl⟩ | ⟨v, targets, items, hturn⟩
    · exact ih hso ht hr hi hrest hsnap'
    · have honward := hturn.onward hwf hso ht hso'
      obtain ⟨is, hf⟩ := Run.hasInstances_iff.mp hi
      have hf' := hturn.instances_of_some hf
      refine honward.trans (ih hso' honward.told (honward.ready hr)
        (Run.hasInstances_iff.mpr ⟨is, hf'⟩) (fun k hk => ?_) fun k hk hpend => ?_)
      · rw [Run.instanceTexts_congr (hf'.trans hf.symm)]
        exact hrest k hk
      · obtain ⟨st, hst⟩ := hso.text_state (hrest k hk)
        have hne : k ≠ key := by
          rintro rfl
          exact hturn.not_pending (Run.status_of_shown? hturn.shown_key hpend)
        have hshown := hturn.shown_of_mem (Run.mem_keys_of_state? hst) hne
        exact hshown.trans (hsnap' k hk ((Run.has_congr hshown).mp hpend))

end Fired

lemma Worked.only_walks (h : Worked p r n key x ws o) {msg : Message} (hm : msg ∈ o.messages) :
    ∃ k, msg = .walk k := by
  cases h <;> simp_all [Outcome.send, Outcome.nothing, Outcome.walk]

lemma Started.only_walks {source : Status} (h : Started p now r n key x source ws o) {msg : Message}
    (hm : msg ∈ o.messages) : ∃ k, msg = .walk k := by
  cases h with
  | skipped => cases hm
  | worked _ hw => exact hw.only_walks hm

lemma FiredAll.only_walks {snap : Run} {mapping : Mapping} {l : List String}
    (h : FiredAll p now snap n mapping r l ws o) {msg : Message} (hm : msg ∈ o.messages) :
    ∃ k, msg = .walk k := by
  induction h with
  | nil => cases hm
  | passed _ _ ih => exact ih hm
  | fired _ _ _ hw _ ih => exact (List.mem_append.mp hm).elim hw.only_walks ih

structure Ongoing (p : Plan) (payload : Keyed Json) (ans : Answers) (asked : List Request) (r : Run)
    (queue : List Message) : Prop where
  told : Told p payload ans asked r
  uniform : ∀ n ∈ p.nodeIds, Uniform r n
  queued : ∀ msg ∈ queue, (∃ k, msg = .walk k) ∨ ∃ n, msg = .fire n ∧ (n ∈ p.nodeIds → r.Ready p n)

variable {rest : List Message} {msg : Message}

section Handled

variable (hwf : p.WellFormed) (hso : r.Sound p)
include hwf hso

lemma fire_onward (ht : Told p payload ans asked r) (hr : id ∈ p.nodeIds → r.Ready p id)
    (h : Handled p now r (.fire id) ws o) :
    Onward p payload ans asked o.requests r (r.afterAll now ws) id ∧
      ∀ msg ∈ o.messages, ∃ k, msg = .walk k := by
  cases h with
  | missing => exact ⟨.refl ht, by simp [Outcome.nothing]⟩
  | hollow => exact ⟨.refl ht, by simp [Outcome.walk]⟩
  | @instances _ n mapping _ _ hn hi hne hm hf =>
    obtain rfl := hwf.id_eq hn
    have hmem := Plan.mem_nodeIds_iff.mpr ⟨n, hn⟩
    exact ⟨hf.onward hwf hso ht hn (hr hmem) hm hi (fun _ hk => hk) (fun _ _ _ => rfl),
      fun _ => hf.only_walks⟩
  | @whole _ n input _ _ hn hi hin hw =>
    obtain rfl := hwf.id_eq hn
    have hmem := Plan.mem_nodeIds_iff.mpr ⟨n, hn⟩
    have hk : n.id ∈ r.keysOf n.id := by simp [Run.keysOf, hi]
    refine ⟨?_, fun _ => hw.only_walks⟩
    have hso' := hw.sound hwf hso hn hk
    have hx : keyInput p r n .null = .ok input := by simp [keyInput, hi, hin]
    rcases hw.turn hwf hso ht hn (hr hmem) hk (.whole hi) (fun _ => hx)
      with ⟨rfl, rfl⟩ | ⟨v, targets, items, hturn⟩
    · exact .refl ht
    · exact hturn.onward hwf hso ht hso'

lemma Ongoing.step (hj : Ongoing p payload ans asked r (msg :: rest))
    (h : Handled p now r msg ws o) :
    Ongoing p payload ans (asked ++ o.requests) (r.afterAll now ws) (rest ++ o.messages) := by
  -- The first message is a walk, or fires a node that is ready.
  obtain ⟨hmsg, hrest⟩ := List.forall_mem_cons.mp hj.queued
  rcases hmsg with ⟨key, rfl⟩ | ⟨id, rfl, hr⟩
  · cases h with
    | strayed =>
      exact ⟨by simpa [Outcome.nothing] using hj.told, hj.uniform,
        by simpa [Outcome.nothing] using hrest⟩
    | walked _ hl =>
      refine ⟨by simpa [Outcome.fire] using hj.told, hj.uniform, fun msg hm => ?_⟩
      rcases List.mem_append.mp hm with hm | hm
      · exact hrest msg hm
      · obtain ⟨n, hn, rfl⟩ := List.mem_map.mp hm
        exact .inr ⟨n, rfl, fun _ => ((hl n).mp hn).2⟩
  · obtain ⟨honward, hwalks⟩ := fire_onward hwf hso hj.told hr h
    refine ⟨honward.told, fun m hm => ?_, fun msg hmem => ?_⟩
    · by_cases hne : m = id
      · subst hne
        obtain ⟨n, hn⟩ := Plan.mem_nodeIds_iff.mp hm
        obtain rfl := hwf.id_eq hn
        exact uniform_of_not_open (h.closes hwf hso hm).1
      · exact honward.uniform hm hne (hj.uniform m hm)
    · rcases List.mem_append.mp hmem with hmem | hmem
      · refine (hrest msg hmem).imp_right ?_
        rintro ⟨n, rfl, hr⟩
        exact ⟨n, rfl, fun hn => honward.ready (hr hn)⟩
      · exact .inl (hwalks msg hmem)

end Handled

lemma Drained.ongoing {queue : List Message} {qs : List Request} (hwf : p.WellFormed)
    (h : Drained p now r queue ws qs) (hso : r.Sound p)
    (hj : Ongoing p payload ans asked r queue) :
    Ongoing p payload ans (asked ++ qs) (r.afterAll now ws) [] := by
  induction h generalizing asked with
  | done => simpa using hj
  | next hm hl _ ih =>
    rw [Run.afterAll_append, ← List.append_assoc]
    exact ih (hso.afterAll hwf.child_mem hl) (hj.step hwf hso hm)

end Workflow.Engine
