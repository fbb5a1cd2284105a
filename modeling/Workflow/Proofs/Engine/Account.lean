import Workflow.Proofs.Engine.Announce
import Workflow.Proofs.Engine.Shown

/-! An account of a run: what each key shows follows from the plan, from what its sources show, and
from the answer to the key. -/

namespace Workflow.Engine

open Run (Spawnable SameAt)

structure Answers where
  report : String → Json → Callback
  answer : String → Json → Json

def showAfter (u : NodeUpdate) (v : Shown) : Shown :=
  ⟨u.status.getD v.status, u.output?.getD v.output, u.error?.getD v.error⟩

def Spread (p : Plan) (r : Run) (t : String) (items : List Json) : Prop :=
  ∃ n k, p.node? n.id = some n ∧ n.kind = .splitter ∧ t ∈ p.fannedOut n.id ∧ k ∈ r.keysOf n.id ∧
    r.shown? k = some ⟨.completed, .arr items, none⟩

inductive Base (p : Plan) (r : Run) (n : String) : String → Json → Prop where
  | whole (hi : r.hasInstances n = false) : Base p r n n .null
  | item {items x} {j : Nat} (hs : Spread p r n items) (hx : items[j]? = some x) :
      Base p r n (InstanceKey.text ⟨n, j⟩) x

def keyInput (p : Plan) (r : Run) (n : PlanNode) (held : Json) : Except Failure Json :=
  if r.hasInstances n.id then do
    let mapping ← itemMapping p n.id (p.parents n.id)
    Failure.ofPath (Mapping.instanceInput held mapping)
  else nodeInput p r n

inductive Explained (p : Plan) (ans : Answers) (asked : List Request) (r : Run) (n : PlanNode)
    (key : String) (held x : Json) : Shown → Prop where
  | sent (hk : n.kind = .worker) (hq : ∀ q ∈ asked, q.nodeKey = key → q.input = x) :
      Explained p ans asked r n key held x ⟨.running, held, none⟩
  | reported (hk : n.kind = .worker) :
      Explained p ans asked r n key held x
        (showAfter (Engine.reported (ans.report key x)) ⟨.running, held, none⟩)
  | parked (hk : n.kind = .ux) : Explained p ans asked r n key held x ⟨.waitingForUser, x, none⟩
  | answered (hk : n.kind = .ux) :
      Explained p ans asked r n key held x ⟨.completed, ans.answer key x, none⟩
  | unsplit {e} (hk : n.kind = .splitter) (hi : splitItems n key x = .error e) :
      Explained p ans asked r n key held x ⟨.failed, held, some e⟩
  | rejected {f} (hk : n.kind = .splitter) (hf : Store.Rejection f) :
      Explained p ans asked r n key held x ⟨.failed, held, some f.text⟩
  | split {items} (hk : n.kind = .splitter) (hi : splitItems n key x = .ok items) :
      Explained p ans asked r n key held x ⟨.completed, .arr items, none⟩
  | uncollected {e} (hk : n.kind = .collector) (hc : collectValue p r n = .error e) :
      Explained p ans asked r n key held x ⟨.failed, held, some e⟩
  | collected {y} (hk : n.kind = .collector) (hc : collectValue p r n = .ok y) :
      Explained p ans asked r n key held x ⟨.completed, y, none⟩

structure Told (p : Plan) (payload : Keyed Json) (ans : Answers) (asked : List Request) (r : Run) :
    Prop where
  payload : r.trigger.payload.getD [] = payload
  requests : ∀ q ∈ asked, q.runId = r.id ∧
    ∃ v, r.shown? q.nodeKey = some v ∧ v.status ≠ .pending
  fanned : ∀ {t}, r.hasInstances t = true → ∃ items, Spread p r t items
  spread : ∀ {t items}, Spread p r t items → Keyed.find? r.instances t = some (indices items.length)
  unique : ∀ {t items items'}, Spread p r t items → Spread p r t items' → items = items'
  own : ∀ {t}, r.hasInstances t = true → r.shown? t = some ⟨.pending, .null, none⟩
  held : ∀ {n k x}, n ∈ p.nodeIds → k ∈ r.keysOf n → r.Has k .pending → Base p r n k x →
    r.shown? k = some ⟨.pending, x, none⟩
  begun : ∀ {n k v}, p.node? n.id = some n → k ∈ r.keysOf n.id → r.shown? k = some v →
    v.status ≠ .pending → r.Ready p n.id ∧ ∃ held x, Base p r n.id k held ∧
      keyInput p r n held = .ok x ∧ Explained p ans asked r n k held x v

structure Turn (p : Plan) (ans : Answers) (asked new : List Request) (r r' : Run) (n : PlanNode)
    (key : String) (v : Shown) (targets : List String) (items : List Json) : Prop where
  node : p.node? n.id = some n
  mem : key ∈ r.keysOf n.id
  unsettled : ¬ r.Settled key
  ready : r.Ready p n.id
  explained : ∃ held x, Base p r n.id key held ∧ keyInput p r n held = .ok x ∧
    Explained p ans (asked ++ new) r n key held x v
  asks : ∀ q ∈ new, q.runId = r.id ∧ q.nodeKey = key
  header : r.SameHeader r'
  spawnable : r.Spawnable targets items
  instances : ∀ t, Keyed.find? r'.instances t =
    if t ∈ targets then some (indices items.length) else Keyed.find? r.instances t
  shown : ∀ k, r'.shown? k = if k = key then some v else
    (r.shown? k).or ((Keyed.find? (spawnedStates targets items) k).map NodeState.shown)
  fans : n.kind = .splitter ∧ v = ⟨.completed, .arr items, none⟩ ∧ targets = p.fannedOut n.id ∨
    targets = [] ∧ ¬ (n.kind = .splitter ∧ v.status = .completed)

variable {p : Plan} {payload : Keyed Json} {ans : Answers} {asked new : List Request} {r r' : Run}
  {n : PlanNode} {key k m t : String} {v : Shown} {targets : List String}
  {items items' : List Json} {held x : Json}

lemma status_showAfter_reported (c : Callback) :
    (showAfter (Engine.reported c) v).status = .completed ∨
      (showAfter (Engine.reported c) v).status = .failed := by
  unfold Engine.reported
  cases c.result with
  | completed => exact .inl rfl
  | failed => exact .inr rfl

lemma Explained.not_pending (h : Explained p ans asked r n key held x v) : v.status ≠ .pending := by
  cases h with
  | reported =>
    rcases status_showAfter_reported (v := ⟨.running, held, none⟩) (ans.report key x) with h | h
    · simp [h]
    · simp [h]
  | _ => simp

lemma Explained.of_running (h : Explained p ans asked r n key held x v)
    (hst : v.status = .running) : v = ⟨.running, held, none⟩ ∧ n.kind = .worker ∧
      ∀ q ∈ asked, q.nodeKey = key → q.input = x := by
  cases h with
  | sent hk hq => exact ⟨rfl, hk, hq⟩
  | reported =>
    rcases status_showAfter_reported (v := ⟨.running, held, none⟩) (ans.report key x) with h | h
    · cases h.symm.trans hst
    · cases h.symm.trans hst
  | _ => cases hst

lemma Explained.of_waiting (h : Explained p ans asked r n key held x v)
    (hst : v.status = .waitingForUser) : v = ⟨.waitingForUser, x, none⟩ ∧ n.kind = .ux := by
  cases h with
  | parked hk => exact ⟨rfl, hk⟩
  | reported =>
    rcases status_showAfter_reported (v := ⟨.running, held, none⟩) (ans.report key x) with h | h
    · cases h.symm.trans hst
    · cases h.symm.trans hst
  | _ => cases hst

namespace Turn

variable (hwf : p.WellFormed) (hso : r.Sound p)
  (h : Turn p ans asked new r r' n key v targets items)
include h

lemma node_mem : n.id ∈ p.nodeIds := Plan.mem_nodeIds_iff.mpr ⟨n, h.node⟩

include hso in
lemma template_key : r.template key = n.id := hso.template_keysOf h.node_mem h.mem

include hso in
lemma key_mem : key ∈ Keyed.keys r.states := by
  obtain ⟨s, hs⟩ := hso.keysOf_state h.node_mem h.mem
  exact Run.mem_keys_of_state? hs

lemma shown_key : r'.shown? key = some v := by rw [h.shown, if_pos rfl]

lemma not_pending : v.status ≠ .pending := by
  obtain ⟨_, _, _, _, he⟩ := h.explained
  exact he.not_pending

lemma mem_fannedOut (ht : t ∈ targets) : t ∈ p.fannedOut n.id := by
  rcases h.fans with ⟨_, _, rfl⟩ | ⟨rfl, _⟩
  · exact ht
  · cases ht

include hwf in
lemma parent_of_target (ht : t ∈ targets) : n.id ∈ p.parents t :=
  hwf.parents_iff.mpr (Plan.mem_fannedOut.mp (h.mem_fannedOut ht)).1

lemma not_parent (hr : r.Ready p m) : n.id ∉ p.parents m :=
  fun hp => h.unsettled ((hr _ hp).settled h.mem)

lemma instances_of_some {is : List Int} (hi : Keyed.find? r.instances t = some is) :
    Keyed.find? r'.instances t = some is := by
  rw [h.instances, if_neg, hi]
  intro ht
  rw [Run.hasInstances_eq_false.mp (h.spawnable.whole t ht)] at hi
  cases hi

include hwf in
lemma instances_of_ready (hr : r.Ready p m) :
    Keyed.find? r'.instances m = Keyed.find? r.instances m := by
  rw [h.instances, if_neg]
  exact fun ht => h.not_parent hr (h.parent_of_target hwf ht)

lemma shown_of_mem (hk : k ∈ Keyed.keys r.states) (hne : k ≠ key) : r'.shown? k = r.shown? k := by
  obtain ⟨w, hw⟩ := Run.exists_shown hk
  rw [h.shown, if_neg hne, hw]
  rfl

lemma shown_of_not_pending {w : Shown} (hk : r'.shown? k = some w) (hne : k ≠ key)
    (hw : w.status ≠ .pending) : r.shown? k = some w := by
  rw [h.shown, if_neg hne] at hk
  cases hr : r.shown? k with
  | some u => simpa [hr] using hk
  | none =>
    rw [hr, Option.none_or, Option.map_eq_some_iff] at hk
    obtain ⟨s, hs, rfl⟩ := hk
    obtain ⟨_, _, _, _, _, _, rfl⟩ := mem_spawnedStates.mp (Keyed.mem_of_find? hs)
    exact absurd rfl hw

include hso in
lemma sameAt (hm : m ∈ p.nodeIds) (hne : m ≠ n.id)
    (hi : Keyed.find? r'.instances m = Keyed.find? r.instances m) : SameAt r r' m where
  instances := hi.symm
  keys k hk := by
    obtain ⟨s, hs⟩ := hso.keysOf_state hm hk
    refine (h.shown_of_mem (Run.mem_keys_of_state? hs) ?_).symm
    rintro rfl
    exact hne ((hso.template_keysOf hm hk).symm.trans (h.template_key hso))

lemma mem_keysOf (hk : k ∈ r'.keysOf m) (hmem : k ∈ Keyed.keys r.states) : k ∈ r.keysOf m := by
  by_cases ht : m ∈ targets
  · have hf : Keyed.find? r'.instances m = some (indices items.length) := by
      rw [h.instances, if_pos ht]
    rw [Run.keysOf, if_pos (Run.hasInstances_iff.mpr ⟨_, hf⟩), Run.instanceTexts_of_find? hf,
      Store.firstInstances, List.mem_map] at hk
    obtain ⟨j, hj, rfl⟩ := hk
    exact absurd hmem (h.spawnable.fresh m ht j (List.mem_range.mp hj))
  · have hf : Keyed.find? r'.instances m = Keyed.find? r.instances m := by
      rw [h.instances, if_neg ht]
    rwa [← Run.keysOf_congr hf]

include hso in
lemma node_of_key (hm : m ∈ p.nodeIds) (hk : key ∈ r'.keysOf m) : m = n.id :=
  (hso.template_keysOf hm (h.mem_keysOf hk (h.key_mem hso))).symm.trans (h.template_key hso)

include hso in
lemma spread_before (hsp : Spread p r' t items') :
    Spread p r t items' ∨ t ∈ targets ∧ items' = items := by
  obtain ⟨node, k, hn, hkind, htm, hk, hw⟩ := hsp
  have hm := Plan.mem_nodeIds_iff.mpr ⟨node, hn⟩
  by_cases hne : k = key
  · subst hne
    have hid := h.node_of_key hso hm hk
    have hnode : node = n := by rw [hid, h.node] at hn; exact (Option.some.inj hn).symm
    subst hnode
    have hv := Option.some.inj (h.shown_key.symm.trans hw)
    rcases h.fans with ⟨_, hv', rfl⟩ | ⟨_, hno⟩
    · rw [hv] at hv'
      simp only [Shown.mk.injEq, Json.arr.injEq, true_and, and_true] at hv'
      exact .inr ⟨htm, hv'⟩
    · exact absurd ⟨hkind, by rw [hv]⟩ hno
  · have hw' := h.shown_of_not_pending hw hne (by simp)
    exact .inl ⟨node, k, hn, hkind, htm, h.mem_keysOf hk (Run.mem_keys_of_shown? hw'), hw'⟩

include hwf in
lemma spread_target (htm : t ∈ targets) : Spread p r' t items := by
  rcases h.fans with ⟨hkind, hv, rfl⟩ | ⟨rfl, _⟩
  · refine ⟨n, key, h.node, hkind, htm, ?_, by rw [h.shown_key, hv]⟩
    rw [Run.keysOf_congr (h.instances_of_ready hwf h.ready)]
    exact h.mem
  · cases htm

section Told

variable (ht : Told p payload ans asked r)
include hwf hso ht

lemma sameAt_parent {s : String} (hr : r.Ready p m) (hs : s ∈ p.parents m) : SameAt r r' s := by
  have hmem := hwf.parent_mem (hwf.parents_iff.mp hs)
  have hne : s ≠ n.id := fun he => h.not_parent hr (he ▸ hs)
  refine h.sameAt hso hmem hne ?_
  by_cases hi : r.hasInstances s = true
  · obtain ⟨is, hf⟩ := Run.hasInstances_iff.mp hi
    rw [h.instances_of_some hf, hf]
  · obtain ⟨node, hn⟩ := Plan.mem_nodeIds_iff.mp hmem
    obtain rfl := hwf.id_eq hn
    obtain ⟨w, hw⟩ := Run.exists_shown (hso.node_mem hmem)
    have hk : node.id ∈ r.keysOf node.id := by rw [Run.keysOf, if_neg hi, List.mem_singleton]
    have hst : w.status ≠ .pending := by
      intro hp
      have hpend : r.Has node.id .pending := hp ▸ Run.has_of_shown? hw
      exact hpend.not_settled rfl ((hr _ hs).settled hk)
    exact h.instances_of_ready hwf (ht.begun hn hk hw hst).1

lemma ready_after (hr : r.Ready p m) : r'.Ready p m :=
  hr.congr fun _ hs => h.sameAt_parent hwf hso ht hr hs

omit hso in
lemma spread_after (hsp : Spread p r t items') : Spread p r' t items' := by
  obtain ⟨node, k, hn, hkind, htm, hk, hw⟩ := hsp
  have hne : k ≠ key := by
    rintro rfl
    exact h.unsettled (.inl (Run.has_of_shown? hw))
  have hr := (ht.begun hn hk hw (by simp)).1
  refine ⟨node, k, hn, hkind, htm, ?_, ?_⟩
  · rwa [Run.keysOf_congr (h.instances_of_ready hwf hr)]
  · rw [h.shown_of_mem (Run.mem_keys_of_shown? hw) hne, hw]

omit hwf hso in
lemma not_spread (htm : t ∈ targets) : ¬ Spread p r t items' := by
  intro hsp
  have hf := ht.spread hsp
  rw [Run.hasInstances_eq_false.mp (h.spawnable.whole t htm)] at hf
  cases hf

lemma own_pending (htm : t ∈ targets) : r.shown? t = some ⟨.pending, .null, none⟩ := by
  have hmem := hwf.child_mem (Plan.mem_fannedOut.mp (h.mem_fannedOut htm)).1
  have hi := h.spawnable.whole t htm
  have hk : t ∈ r.keysOf t := by simp [Run.keysOf, hi]
  obtain ⟨node, hn⟩ := Plan.mem_nodeIds_iff.mp hmem
  obtain rfl := hwf.id_eq hn
  obtain ⟨w, hw⟩ := Run.exists_shown (hso.node_mem hmem)
  have hp : w.status = .pending := by
    by_contra hst
    exact h.not_parent (ht.begun hn hk hw hst).1 (h.parent_of_target hwf htm)
  exact ht.held hmem hk (hp ▸ Run.has_of_shown? hw) (.whole hi)

lemma keyInput_after {node : PlanNode} (hso' : r'.Sound p) (hr : r.Ready p node.id) :
    keyInput p r' node held = keyInput p r node held := by
  have hi := Run.hasInstances_congr (h.instances_of_ready hwf hr)
  have hsame : ∀ s ∈ p.parents node.id, SameAt r' r s := fun s hs =>
    (h.sameAt_parent hwf hso ht hr hs).symm
  rw [keyInput, keyInput, hi, nodeInput_congr hso' hso (by rw [h.header.trigger]) hsame]

lemma collectValue_after {node : PlanNode} (hr : r.Ready p node.id) :
    collectValue p r' node = collectValue p r node :=
  collectValue_congr fun _ hs => (h.sameAt_parent hwf hso ht hr hs).symm

omit hso in
lemma base_after (hr : r.Ready p m) (hb : Base p r m k held) : Base p r' m k held := by
  cases hb with
  | whole hi => exact .whole (by rwa [Run.hasInstances_congr (h.instances_of_ready hwf hr)])
  | item hs hx => exact .item (h.spread_after hwf ht hs) hx

end Told

end Turn

lemma Explained.mono {asked' : List Request} (h : Explained p ans asked r n key held x v)
    (hc : collectValue p r' n = collectValue p r n)
    (hsub : ∀ q ∈ asked', q.nodeKey = key → q ∈ asked) :
    Explained p ans asked' r' n key held x v := by
  cases h with
  | sent hk hq => exact .sent hk fun q hmem he => hq q (hsub q hmem he) he
  | reported hk => exact .reported hk
  | parked hk => exact .parked hk
  | answered hk => exact .answered hk
  | unsplit hk hi => exact .unsplit hk hi
  | rejected hk hf => exact .rejected hk hf
  | split hk hi => exact .split hk hi
  | uncollected hk he => exact .uncollected hk (hc.trans he)
  | collected hk he => exact .collected hk (hc.trans he)

namespace Told

section Turn

variable (hwf : p.WellFormed) (hso : r.Sound p)
  (ht : Told p payload ans asked r)
  (h : Turn p ans asked new r r' n key v targets items)
include hwf hso ht h

lemma begun_turn (hso' : r'.Sound p) {node : PlanNode} {w : Shown}
    (hn : p.node? node.id = some node) (hk : k ∈ r'.keysOf node.id)
    (hw : r'.shown? k = some w) (hst : w.status ≠ .pending) :
    r'.Ready p node.id ∧ ∃ held x, Base p r' node.id k held ∧ keyInput p r' node held = .ok x ∧
      Explained p ans (asked ++ new) r' node k held x w := by
  by_cases hne : k = key
  · subst hne
    have hid := h.node_of_key hso (Plan.mem_nodeIds_iff.mpr ⟨node, hn⟩) hk
    obtain rfl : node = n := by
      rw [hid, h.node] at hn
      exact (Option.some.inj hn).symm
    obtain rfl := Option.some.inj (h.shown_key.symm.trans hw)
    obtain ⟨held, x, hb, hx, he⟩ := h.explained
    refine ⟨h.ready_after hwf hso ht h.ready, held, x, h.base_after hwf ht h.ready hb, ?_, ?_⟩
    · rw [h.keyInput_after hwf hso ht hso' h.ready, hx]
    · exact he.mono (h.collectValue_after hwf hso ht h.ready) fun q hq _ => hq
  · have hw' := h.shown_of_not_pending hw hne hst
    have hk' := h.mem_keysOf hk (Run.mem_keys_of_shown? hw')
    obtain ⟨hr, held, x, hb, hx, he⟩ := ht.begun hn hk' hw' hst
    refine ⟨h.ready_after hwf hso ht hr, held, x, h.base_after hwf ht hr hb, ?_, ?_⟩
    · rw [h.keyInput_after hwf hso ht hso' hr, hx]
    · refine he.mono (h.collectValue_after hwf hso ht hr) fun q hq he => ?_
      exact (List.mem_append.mp hq).resolve_right fun hq => hne (he.symm.trans (h.asks q hq).2)

omit hwf in
lemma unique_turn {xs ys : List Json} (hs : Spread p r' t xs) (hs' : Spread p r' t ys) :
    xs = ys := by
  rcases h.spread_before hso hs with hs | ⟨htm, rfl⟩
  · rcases h.spread_before hso hs' with hs' | ⟨htm, _⟩
    · exact ht.unique hs hs'
    · exact absurd hs (h.not_spread ht htm)
  · rcases h.spread_before hso hs' with hs' | ⟨_, rfl⟩
    · exact absurd hs' (h.not_spread ht htm)
    · rfl

omit hwf in
lemma spread_turn {xs : List Json} (hs : Spread p r' t xs) :
    Keyed.find? r'.instances t = some (indices xs.length) := by
  rcases h.spread_before hso hs with hs | ⟨htm, rfl⟩
  · exact h.instances_of_some (ht.spread hs)
  · rw [h.instances, if_pos htm]

omit hso in
lemma fanned_turn (hi : r'.hasInstances t = true) : ∃ xs, Spread p r' t xs := by
  by_cases htm : t ∈ targets
  · exact ⟨items, h.spread_target hwf htm⟩
  · have hf : Keyed.find? r'.instances t = Keyed.find? r.instances t := by
      rw [h.instances, if_neg htm]
    obtain ⟨xs, hs⟩ := ht.fanned ((Run.hasInstances_congr hf).symm.trans hi)
    exact ⟨xs, h.spread_after hwf ht hs⟩

lemma own_turn (hi : r'.hasInstances t = true) :
    r'.shown? t = some ⟨.pending, .null, none⟩ := by
  have hold : r.shown? t = some ⟨.pending, .null, none⟩ ∧ t ≠ key := by
    by_cases htm : t ∈ targets
    · refine ⟨h.own_pending hwf hso ht htm, ?_⟩
      rintro rfl
      have hc := (Plan.mem_fannedOut.mp (h.mem_fannedOut htm)).1
      rw [← h.template_key hso, hso.template_node (hwf.child_mem hc)] at hc
      exact hwf.not_mem_children hc
    · have hf : Keyed.find? r'.instances t = Keyed.find? r.instances t := by
        rw [h.instances, if_neg htm]
      have hi' : r.hasInstances t = true := (Run.hasInstances_congr hf).symm.trans hi
      refine ⟨ht.own hi', ?_⟩
      rintro rfl
      obtain ⟨is, hfind⟩ := Run.hasInstances_iff.mp hi'
      have hmem := (hso.counted hfind).1
      have hid := (hso.template_node hmem).symm.trans (h.template_key hso)
      have hk := h.mem
      rw [← hid, Run.keysOf, if_pos hi'] at hk
      exact hso.instanceText_ne hk hmem
  rw [h.shown_of_mem (Run.mem_keys_of_shown? hold.1) hold.2, hold.1]

omit hwf in
lemma held_turn (hm : m ∈ p.nodeIds) (hk : k ∈ r'.keysOf m) (hp : r'.Has k .pending)
    (hb : Base p r' m k x) : r'.shown? k = some ⟨.pending, x, none⟩ := by
  have hne : k ≠ key := by
    rintro rfl
    exact h.not_pending (Run.status_of_shown? h.shown_key hp)
  -- A key from before keeps what it holds, and a new one holds the item it was made for.
  by_cases hmem : k ∈ Keyed.keys r.states
  · have hk' := h.mem_keysOf hk hmem
    have hshown := h.shown_of_mem hmem hne
    have hp' := (Run.has_congr hshown).mp hp
    rw [hshown]
    refine ht.held hm hk' hp' ?_
    cases hb with
    | whole hi =>
      refine .whole ?_
      by_contra hi'
      obtain ⟨is, hf⟩ := Run.hasInstances_iff.mp (by simpa using hi')
      rw [Run.hasInstances_iff.mpr ⟨is, h.instances_of_some hf⟩] at hi
      cases hi
    | @item xs _ j hs hx =>
      rcases h.spread_before hso hs with hs | ⟨htm, rfl⟩
      · exact .item hs hx
      · exact absurd hmem
          (h.spawnable.fresh m htm j (List.getElem?_eq_some_iff.mp hx).1)
  · have hnone : r.shown? k = none := by
      rw [Run.shown?, Option.map_eq_none_iff]
      exact Keyed.find?_eq_none_iff.mpr hmem
    obtain ⟨w, hw, _⟩ := Run.has_iff_shown.mp hp
    have hw' := hw
    rw [h.shown, if_neg hne, hnone, Option.none_or, Option.map_eq_some_iff] at hw'
    obtain ⟨s, hs, rfl⟩ := hw'
    obtain ⟨t, htm, j, y, hy, rfl, rfl⟩ := mem_spawnedStates.mp (Keyed.mem_of_find? hs)
    have hxy : x = y := by
      generalize hkey : InstanceKey.text ⟨t, (j : Nat)⟩ = k at hb hmem
      cases hb with
      | whole => exact absurd (hso.node_mem hm) hmem
      | @item xs _ i hs hx =>
        obtain ⟨rfl, hij⟩ := InstanceKey.mk.inj (InstanceKey.text_injective hkey)
        obtain rfl := Int.ofNat.inj hij
        rcases h.spread_before hso hs with hs | ⟨_, rfl⟩
        · exact absurd hs (h.not_spread ht htm)
        · exact Option.some.inj (hx.symm.trans hy)
    rw [hw, hxy]
    rfl

lemma turn (hso' : r'.Sound p) : Told p payload ans (asked ++ new) r' where
  payload := by rw [h.header.trigger, ht.payload]
  requests q hq := by
    rw [h.header.id]
    rcases List.mem_append.mp hq with hq | hq
    · obtain ⟨hid, w, hw, hst⟩ := ht.requests q hq
      by_cases hne : q.nodeKey = key
      · exact ⟨hid, v, hne ▸ h.shown_key, h.not_pending⟩
      · exact ⟨hid, w, by rw [h.shown_of_mem (Run.mem_keys_of_shown? hw) hne, hw], hst⟩
    · obtain ⟨hid, hkey⟩ := h.asks q hq
      exact ⟨hid, v, hkey ▸ h.shown_key, h.not_pending⟩
  fanned := ht.fanned_turn hwf h
  spread := ht.spread_turn hso h
  unique := ht.unique_turn hso h
  own := ht.own_turn hwf hso h
  held := ht.held_turn hso h
  begun := ht.begun_turn hwf hso h hso'

end Turn

end Told

end Workflow.Engine
