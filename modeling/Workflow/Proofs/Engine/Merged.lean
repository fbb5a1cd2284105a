import Workflow.Proofs.Engine.FanIn
import Workflow.Proofs.Engine.Unambiguous
import Workflow.Proofs.Plan.EdgeOrder

/-! The modes of a collector are views of one list: what its completed branches have put out. -/

namespace Workflow

open Store (holdsRevision)

namespace Run

def completedAmong (r : Run) (keys : List String) : Keyed Json :=
  keys.filterMap fun k => (r.result? k).map fun x => (k, x)

variable {p : Plan} {r q : Run} {now : Instant} {key s k : String} {u : NodeUpdate} {n : PlanNode}
  {keys l : List String}

lemma isSome_result?_iff : (r.result? k).isSome = true ↔ r.Has k .completed := by
  rw [has_iff_shown, result?]
  cases r.shown? k <;> simp [Option.isSome_iff_exists]

lemma keys_completedAmong :
    Keyed.keys (r.completedAmong keys) = keys.filter fun k => r.Has k .completed := by
  induction keys with
  | nil => rfl
  | cons k rest ih =>
    rw [completedAmong] at ih ⊢
    have hk := r.isSome_result?_iff (k := k)
    cases hx : r.result? k with
    | none => simp_all [Keyed.keys]
    | some x => simp_all [Keyed.keys]

lemma completedAmong_congr (h : ∀ k ∈ keys, q.result? k = r.result? k) :
    q.completedAmong keys = r.completedAmong keys :=
  List.filterMap_congr fun k hk => by rw [h k hk]

lemma Sound.keysOf_eq (h : r.Sound p) {is : List Int} (hf : Keyed.find? r.instances s = some is) :
    r.keysOf s = Store.firstInstances s is.length := by
  obtain ⟨_, m, rfl⟩ := h.counted hf
  rw [keysOf, if_pos (hasInstances_iff.mpr ⟨_, hf⟩), instanceTexts_of_find? hf, indices,
    List.length_map, List.length_range]

lemma Sound.nodup_keysOf (h : r.Sound p) : (r.keysOf s).Nodup := by
  rw [keysOf]
  split
  · exact h.nodup_instanceTexts
  · exact List.nodup_singleton s

lemma Sound.nodup_branchKeys (h : r.Sound p) (hl : l.Nodup) (hmem : ∀ s ∈ l, s ∈ p.nodeIds) :
    (Engine.branchKeys r l).Nodup := by
  refine List.nodup_flatMap.mpr ⟨fun s _ => h.nodup_keysOf, ?_⟩
  refine hl.imp_of_mem fun ha hb hne => List.disjoint_left.mpr fun k hka hkb => hne ?_
  exact (h.template_keysOf (hmem _ ha) hka).symm.trans (h.template_keysOf (hmem _ hb) hkb)

lemma Sound.sameAt_update (h : r.Sound p) (hwf : p.WellFormed)
    (hn : p.node? (r.template key) = some n) (hs : s ∈ p.parents n.id) :
    SameAt r (r.update now key u) s := by
  refine ⟨by rw [instances_update], fun k hk => (Engine.shown?_update_of_ne ?_).symm⟩
  rintro rfl
  have hc := hwf.parents_iff.mp hs
  have ht := h.template_keysOf (hwf.parent_mem hc) hk
  rw [hwf.id_eq hn, ht] at hc
  exact hwf.not_mem_children hc

end Run

lemma Canvas.nodup_parents_of_compile {c : Canvas} {catalogue : Catalogue} {p : Plan}
    (hc : c.compile catalogue = .ok p) (t : String) : (p.parents t).Nodup := by
  obtain ⟨_, rfl⟩ := compile_eq_ok hc
  rw [parents_ofCanvas]
  exact nodup_executableIds.filter _

namespace Engine

/-- The worlds that operations reach, also amid an operation: between two messages of a queue, and
between two starts of one message. -/
inductive Midway : World → Prop where
  | settled {w : World} (hw : Fresh w) (ops : List (Engine × Operation)) :
      Midway (afterOperations w ops)
  | created {versionId : String} {v : FlowVersion} {trigger : Trigger} {entityId : Option String}
      {input : Option (Keyed Json)} {w : World} {s : Store} (h : Midway w)
      (hv : w.store.version? versionId = some v)
      (hc : Store.createRun w.now (created w v trigger entityId input) w.store = .ok s) :
      Midway (withCreated w (created w v trigger entityId input))
  | stepped {settings : Settings} {id : String} {m : Message} {o : Outcome} {w w' : World}
      (h : Midway w) (hs : step settings id m w = .ok o w') : Midway w'
  | started {settings : Settings} {id : String} {v : FlowVersion} {r snap : Run} {n : PlanNode}
      {key : String} {input : Json} {source : Status} {o : Outcome} {w w' : World}
      (h : Midway w) (hrow : w.store.run? id = some r) (hid : snap.id = id)
      (hv : w.store.version? r.versionId = some v)
      (hn : v.plan.node? (r.template key) = some n) (hs : r.Has key source)
      (hc : source.canBecome .running = true)
      (hrun : runHandler settings v.plan snap n key input source w = .ok o w') : Midway w'
  | delivered {e : Engine} {qs : List Request} {w : World} (h : Midway w) :
      Midway (e.handOver w qs)

/-- A key of a collector with the mode, which can be claimed on the row. -/
structure Claimable (p : Plan) (n : PlanNode) (mode : CollectMode) (key : String) (source : Status)
    (r : Run) : Prop where
  node : p.node? (r.template key) = some n
  collector : n.kind = .collector
  mode : collectMode n = .ok mode
  has : r.Has key source
  free : source.canBecome .running = true
  readable : holdsRevision r.revision = true
  room : holdsRevision (r.revision + 1) = true

instance {p : Plan} {n : PlanNode} {mode : CollectMode} {key : String} {source : Status} {r : Run} :
    Decidable (Claimable p n mode key source r) :=
  decidable_of_iff (p.node? (r.template key) = some n ∧ n.kind = .collector ∧
      collectMode n = .ok mode ∧ r.Has key source ∧ source.canBecome .running = true ∧
      holdsRevision r.revision = true ∧ holdsRevision (r.revision + 1) = true)
    ⟨fun ⟨hn, hk, hm, hs, hf, hr, hr'⟩ => ⟨hn, hk, hm, hs, hf, hr, hr'⟩,
      fun h => ⟨h.node, h.collector, h.mode, h.has, h.free, h.readable, h.room⟩⟩

/-- A state with the mode's view of the completed ones of the keys, or of a failure if there are
keys and none of them is completed. -/
structure Views (mode : CollectMode) (r : Run) (keys : List String) (s : NodeState) : Prop where
  merged : Keyed.keys (r.completedAmong keys) = keys.filter fun k => r.Has k .completed
  distinct : (Keyed.keys (r.completedAmong keys)).Nodup
  failed : s.status = .failed ↔ keys ≠ [] ∧ r.completedAmong keys = []
  completed : s.status = .completed ↔ ¬ (keys ≠ [] ∧ r.completedAmong keys = [])
  error : s.status = .failed → s.error = some s!"All {keys.length} upstream branch(es) failed"
  output : s.status = .completed → s.output = joined mode (r.completedAmong keys)

/-- The state that a collector's key is left with after it was started on the row. -/
inductive Collects (p : Plan) (n : PlanNode) (mode : CollectMode) (r : Run) : NodeState → Prop where
  | intro {settings : Settings} {id key : String} {source : Status} {w w' : World} {snap r' : Run}
      {input : Json} {s : NodeState} (hw : Midway w) (hh : w.Hosts id p r)
      (h : Claimable p n mode key source r) (hid : snap.id = id)
      (hrun : runHandler settings p snap n key input source w = .ok (.walk key) w')
      (hrow : w'.store.run? id = some r') (hs : r'.state? key = some s) : Collects p n mode r s

variable {p : Plan} {r snap : Run} {n : PlanNode} {mode : CollectMode} {id key : String}
  {source : Status} {w : World} {s : NodeState} {settings : Settings} {input : Json}

lemma Midway.sane (h : Midway w) : w.Sane := by
  induction h with
  | settled hw ops => exact sane_afterOperations ops hw.sane
  | created _ hv hc ih => exact sane_withCreated ih hv (Store.createRun_ok hc).1
  | @stepped settings id m o w w' _ hs ih =>
    cases hr : w.store.run? id with
    | none =>
      rw [step_missing hr] at hs
      cases hs
    | some r =>
      obtain ⟨v, hwf, hh, hso, hforms⟩ := ih.hosts hr
      obtain ⟨ws, rfl, _, _, hl⟩ := (step_ends hwf hh hso m []).ok hs
      exact ih.recordAll hwf hh hso hforms hl
  | @started _ _ _ _ _ _ _ _ _ _ _ _ _ hrow hid hv hn hs hc hrun ih =>
    obtain ⟨v', hwf, hh, hso, hforms⟩ := ih.hosts hrow
    obtain ⟨v'', hv'', hp⟩ := hh.version
    obtain rfl := Option.some.inj (hv.symm.trans hv'')
    rw [← hp] at hwf hh hso hforms
    obtain ⟨s, hstate, hst⟩ := hs
    obtain ⟨ws, rfl, hstarted⟩ := (runHandler_ends hwf hh hso (hwf.executable hn) hstate hc
      hid).ok hrun
    exact ih.recordAll hwf hh hso hforms (hstarted.lawful hn hc)
  | delivered _ ih => exact sane_handOver ih

lemma collectValue_of_mode (hm : collectMode n = .ok mode)
    (hnodup : (branchKeys r (p.parents n.id)).Nodup) :
    collectValue p r n =
      if branchKeys r (p.parents n.id) ≠ [] ∧
          r.completedAmong (branchKeys r (p.parents n.id)) = [] then
        .error s!"All {(branchKeys r (p.parents n.id)).length} upstream branch(es) failed"
      else .ok (joined mode (r.completedAmong (branchKeys r (p.parents n.id)))) := by
  have hkeys : (Keyed.keys (r.completedAmong (branchKeys r (p.parents n.id)))).Nodup :=
    Run.keys_completedAmong ▸ hnodup.filter _
  have hcollect : collect mode (r.completedAmong (branchKeys r (p.parents n.id))) =
      joined mode (r.completedAmong (branchKeys r (p.parents n.id))) := by
    cases mode with
    | array | first => rfl
    | keyed => exact congrArg Json.obj (Keyed.ofPairs_of_nodup hkeys)
  simp only [collectValue, hm, branchesOf_eq, branchOutputs_eq, List.length_map, List.isEmpty_map]
  rw [← Run.completedAmong, hcollect]
  refine if_congr ?_ rfl rfl
  rw [Bool.and_eq_true, List.isEmpty_iff, Bool.not_eq_true', ← Bool.not_eq_true, List.isEmpty_iff,
    and_comm]

lemma Started.collects (hwf : p.WellFormed) (hso : r.Sound p) {ws : List Write} {o : Outcome}
    {now : Instant} (hn : p.node? (r.template key) = some n) (hk : n.kind = .collector)
    (hs : r.Has key source) (h : Started p now r n key input source ws o) :
    o = .walk key ∧ ∃ s, (r.afterAll now ws).state? key = some s ∧
      match collectValue p r n with
      | .ok x => s.status = .completed ∧ s.output = x
      | .error e => s.status = .failed ∧ s.error = some e := by
  cases h with
  | skipped hno => exact absurd hs hno
  | @worked ws o _ hw =>
    obtain ⟨s, hstate, _⟩ := hs
    have hclaimed : (r.update now key (.toStatus .running)).state? key =
        some ((NodeUpdate.toStatus .running).apply now s) :=
      (Run.state?_update hstate).trans (if_pos rfl)
    have hsame : collectValue p r n = collectValue p (r.update now key (.toStatus .running)) n :=
      collectValue_congr fun t ht => hso.sameAt_update hwf hn ht
    have hmoved : ∀ u, ((r.update now key (.toStatus .running)).update now key u).state? key =
        some (u.apply now ((NodeUpdate.toStatus .running).apply now s)) := fun u =>
      (Run.state?_update hclaimed).trans (if_pos rfl)
    cases hw with
    | sent hw | parked hw | unsplit hw | whole hw | rejected hw | split hw => simp [hk] at hw
    | uncollected _ hc =>
      rw [hsame, hc]
      exact ⟨rfl, _, hmoved _, rfl, rfl⟩
    | collected _ hc =>
      rw [hsame, hc]
      exact ⟨rfl, _, hmoved _, rfl, rfl⟩

lemma views_of_collectValue (hm : collectMode n = .ok mode)
    (hnodup : (branchKeys r (p.parents n.id)).Nodup)
    (h : match collectValue p r n with
      | .ok x => s.status = .completed ∧ s.output = x
      | .error e => s.status = .failed ∧ s.error = some e) :
    Views mode r (branchKeys r (p.parents n.id)) s := by
  have hdistinct : (Keyed.keys (r.completedAmong (branchKeys r (p.parents n.id)))).Nodup :=
    Run.keys_completedAmong ▸ hnodup.filter _
  rw [collectValue_of_mode hm hnodup] at h
  by_cases hfail : branchKeys r (p.parents n.id) ≠ [] ∧
      r.completedAmong (branchKeys r (p.parents n.id)) = []
  · rw [if_pos hfail] at h
    obtain ⟨hst, herr⟩ := h
    exact ⟨Run.keys_completedAmong, hdistinct, by simp [hst, hfail], by simp [hst, hfail],
      fun _ => herr, by simp [hst]⟩
  · rw [if_neg hfail] at h
    obtain ⟨hst, hout⟩ := h
    exact ⟨Run.keys_completedAmong, hdistinct, by simp [hst, hfail], by simp [hst, hfail],
      by simp [hst], fun _ => hout⟩

section Claimed

variable {c : Canvas} {catalogue : Catalogue} (hc : c.compile catalogue = .ok p)

lemma Midway.sound (hw : Midway w) (hh : w.Hosts id p r) : r.Sound p := by
  obtain ⟨v, _, hh', hso, _⟩ := hw.sane.hosts hh.row
  obtain ⟨v₁, hv₁, hp₁⟩ := hh'.version
  obtain ⟨v₂, hv₂, rfl⟩ := hh.version
  obtain rfl := Option.some.inj (hv₁.symm.trans hv₂)
  exact hp₁ ▸ hso

include hc

lemma nodup_branchKeys_parents (hso : r.Sound p) (t : String) :
    (branchKeys r (p.parents t)).Nodup := by
  have hwf := Canvas.compile_wellFormed hc
  exact hso.nodup_branchKeys (Canvas.nodup_parents_of_compile hc t)
    fun s hs => hwf.parent_mem (hwf.parents_iff.mp hs)

lemma Claimable.views (h : Claimable p n mode key source r) (hh : w.Hosts id p r) (hso : r.Sound p)
    (hid : snap.id = id) :
    ∃ w' r' s, runHandler settings p snap n key input source w = .ok (.walk key) w' ∧
      w'.store.run? id = some r' ∧ r'.state? key = some s ∧
      Views mode r (branchKeys r (p.parents n.id)) s := by
  have hwf := Canvas.compile_wellFormed hc
  obtain ⟨a, hstate, _⟩ := h.has
  rcases (runHandler_ends hwf hh hso (hwf.executable h.node) hstate h.free hid).cases with
    ⟨ws, o, hrun, hstarted⟩ | ⟨ws, f, hrun, hbroken⟩
  · obtain ⟨rfl, s, hs, hv⟩ := hstarted.collects hwf hso h.node h.collector h.has
    exact ⟨_, _, s, hrun, (hh.recordAll ws).row, hs,
      views_of_collectValue h.mode (nodup_branchKeys_parents hc hso _) hv⟩
  · exfalso
    cases hbroken with
    | unclaimed hno =>
      rw [h.readable] at hno
      cases hno
    | claimed _ _ hno =>
      rw [revision_update hstate, h.room] at hno
      cases hno

lemma Collects.views (h : Collects p n mode r s) :
    Views mode r (branchKeys r (p.parents n.id)) s := by
  cases h with
  | intro hw hh h hid hrun hrow hs =>
    obtain ⟨w', r', s', hrun', hrow', hs', hv⟩ := h.views hc hh (hw.sound hh) hid
    obtain ⟨_, rfl⟩ := EStateM.Result.ok.inj (hrun.symm.trans hrun')
    obtain rfl := Option.some.inj (hrow.symm.trans hrow')
    obtain rfl := Option.some.inj (hs.symm.trans hs')
    exact hv

end Claimed

lemma Views.agree {q : Run} {keys : List String} {s s' : NodeState} (h : Views mode r keys s)
    (h' : Views mode q keys s') (hsame : ∀ k ∈ keys, q.result? k = r.result? k) :
    s'.status = s.status ∧ (s.status = .completed → s'.output = s.output) ∧
      (s.status = .failed → s'.error = s.error) := by
  have hout := Run.completedAmong_congr hsame
  by_cases hfail : keys ≠ [] ∧ r.completedAmong keys = []
  · have hst := h.failed.mpr hfail
    have hst' := h'.failed.mpr (hout.symm ▸ hfail)
    exact ⟨hst'.trans hst.symm, by simp [hst], fun _ => (h'.error hst').trans (h.error hst).symm⟩
  · have hst := h.completed.mpr hfail
    have hst' := h'.completed.mpr (hout.symm ▸ hfail)
    refine ⟨hst'.trans hst.symm, fun _ => ?_, by simp [hst]⟩
    rw [h'.output hst', h.output hst, hout]

/-- Whenever a collector with a mode is claimed, its branches are the instances of each source that
was fanned out, by index, or else the source. The collector fails if there are branches and none is
completed, and otherwise it is completed with the mode's view of what the completed ones have put
out; no two of them share a key. Two rows with the same branches and the same completed outputs are
collected alike, whatever the other branches hold. -/
theorem collector_views_completed_branches {c : Canvas} {catalogue : Catalogue}
    (hc : c.compile catalogue = .ok p) (hw : Midway w) (hh : w.Hosts id p r)
    (h : Claimable p n mode key source r) (hid : snap.id = id) :
    ∃ w' r' s, runHandler settings p snap n key input source w = .ok (.walk key) w' ∧
      w'.store.run? id = some r' ∧ r'.state? key = some s ∧
      (∀ t ∈ p.parents n.id, ∀ is, Keyed.find? r.instances t = some is →
        r.keysOf t = Store.firstInstances t is.length) ∧
      Views mode r (branchKeys r (p.parents n.id)) s ∧
      ∀ {q : Run} {s' : NodeState}, Collects p n mode q s' →
        branchKeys q (p.parents n.id) = branchKeys r (p.parents n.id) →
        (∀ k ∈ branchKeys r (p.parents n.id), q.result? k = r.result? k) →
        s'.status = s.status ∧ (s.status = .completed → s'.output = s.output) ∧
          (s.status = .failed → s'.error = s.error) := by
  have hso := hw.sound hh
  obtain ⟨w', r', s, hrun, hrow, hs, hv⟩ := h.views hc hh hso hid
  refine ⟨w', r', s, hrun, hrow, hs, fun t _ is hf => hso.keysOf_eq hf, hv, ?_⟩
  intro q s' hq hkeys hsame
  exact hv.agree (hkeys ▸ hq.views hc) hsame

def keyedJoin : Canvas where
  nodes? := some [.bare "split" .splitter [("array_path", .str "items")],
    .bare "each" .worker [("webhook_url", .str "http://worker")],
    .bare "other" .worker [("webhook_url", .str "http://worker")],
    .bare "join" .collector [("mode", .str "keyed")]]
  edges? := fanOutBesideWorker.edges?

def retriedReports : List Call :=
  [.callback "each_0" (.failure "no"), .callback "each_1" (.failure "no"),
    .callback "other" (.failure "no"), .retry "each_1", .retry "other",
    .callback "other" ⟨.completed, .str "b", none⟩, .callback "each_1" ⟨.completed, .str "c", none⟩]

theorem keyedJoin_views_retried : ∃ (id : String) (r r' : Run) (n : PlanNode) (s : NodeState)
    (w w' : World), keyedJoin.compile [] = .ok (.ofCanvas keyedJoin []) ∧ Midway w ∧
      w.Hosts id (.ofCanvas keyedJoin []) r ∧
      Claimable (.ofCanvas keyedJoin []) n .keyed "join" .failed r ∧
      branchKeys r (Plan.parents (.ofCanvas keyedJoin []) n.id) = ["each_0", "each_1", "other"] ∧
      runHandler accepting.settings (.ofCanvas keyedJoin []) r n "join" .null .failed w =
        .ok (.walk "join") w' ∧
      w'.store.run? id = some r' ∧ r'.state? "join" = some s ∧ s.status = .completed ∧
      s.output = .obj [("each_1", .str "c"), ("other", .str "b")] := by
  -- The collector has failed with its branches, and then one of them was retried.
  have hc : keyedJoin.compile [] = .ok (.ofCanvas keyedJoin []) :=
    Canvas.compile_of_checks (by decide +kernel) (by decide +kernel) (by decide +kernel)
  obtain ⟨⟨id, w₀⟩, hstart, w, hplay, r, hr, n, hn, hv, h, hkeys, hdone⟩ :=
    exists_of_any
      (x := accepting.startFor 20 "version" .byHand none (some listOfTwo) (.ofCanvas keyedJoin))
      (P := fun x => ∃ w ∈ accepting.playFor 20 x.1 retriedReports x.2, ∃ r ∈ w.store.run? x.1,
        ∃ n ∈ (Plan.ofCanvas keyedJoin []).node? (r.template "join"),
          (w.store.version? r.versionId).map (·.plan) = some (.ofCanvas keyedJoin []) ∧
          Claimable (.ofCanvas keyedJoin []) n .keyed "join" .failed r ∧
          branchKeys r (Plan.parents (.ofCanvas keyedJoin []) n.id) = ["each_0", "each_1", "other"] ∧
          r.completedAmong ["each_0", "each_1", "other"] =
            [("each_1", .str "c"), ("other", .str "b")]) (by decide +kernel)
  have hw : Midway w :=
    afterOperations_of_startFor hstart hplay ▸ .settled (fresh_ofCanvas hc) _
  obtain ⟨v, hver, hplan⟩ := Option.map_eq_some_iff.mp hv
  have hh : w.Hosts id (.ofCanvas keyedJoin []) r := ⟨hr, ⟨v, hver, hplan⟩, hw.sane.rival⟩
  obtain ⟨w', r', s, hrun, hrow, hs, _, hviews, _⟩ :=
    collector_views_completed_branches hc hw hh h hh.id_eq
  rw [hkeys] at hviews
  have hst : s.status = .completed := hviews.completed.mpr (by simp [hdone])
  exact ⟨id, r, r', n, s, w, w', hc, hw, hh, h, hkeys, hrun, hrow, hs, hst,
    (hviews.output hst).trans (by rw [hdone]; rfl)⟩

end Engine

end Workflow
