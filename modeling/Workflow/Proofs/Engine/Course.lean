import Workflow.Proofs.Engine.Ledger
import Workflow.Proofs.Engine.Passage
import Workflow.Proofs.Store.Replay

/-! The course of a run, whether the operations on it return or fail: its log tells how its row came
about, and of no start before all sources were done. -/

namespace Workflow

open Run (Lawful)

def Store.logOf (s : Store) (id : String) : List Event := s.findEvents none (some id) []

def Timely (p : Plan) (r₀ : Run) (log : List Event) : Prop :=
  ∀ before e rest key, log = before ++ e :: rest → e.Begins key →
    (r₀.replay before).Ready p ((r₀.replay before).template key)

structure Chronicle (p : Plan) (r₀ : Run) (log : List Event) (r : Run) : Prop where
  mirrors : (r₀.replay log).Mirrors r
  timely : Timely p r₀ log

variable {p : Plan} {now : Instant} {r r₀ : Run} {id key : String} {x : Write} {ws : List Write}
  {log es fs : List Event} {e : Event} {s : Store} {w w' : World}

lemma Store.logOf_logAll (s : Store) (es : List Event) :
    ((s.logAll es).logOf id).map (fun e => { e with id := none }) =
      (s.logOf id ++ es.filter fun e => e.runId == some id).map fun e => { e with id := none } := by
  obtain ⟨numbered, heq, hmap⟩ := logAll_eq s es
  have hbare : ∀ fs : List Event,
      (fs.filter fun e => e.runId == some id).map (fun e => { e with id := none }) =
        (fs.map fun e => { e with id := none }).filter fun e => e.runId == some id := by
    intro fs
    rw [List.filter_map]
    rfl
  have hlog : ∀ t : Store, t.logOf id = t.events.filter fun e => e.runId == some id := by
    intro t
    simp [logOf, findEvents]
  rw [hlog, hlog, heq, List.filter_append, List.map_append, List.map_append, hbare numbered, hmap,
    hbare es]

lemma Store.startsIn_eq_logOf : startsIn id key s.events = startsIn id key (s.logOf id) := by
  have hlog : s.logOf id = s.events.filter fun e => e.runId == some id := by
    simp [logOf, findEvents]
  rw [hlog, startsIn, startsIn, List.countP_filter]
  refine List.countP_congr fun e _ => ?_
  simp only [Event.isStart, Bool.and_eq_true]
  tauto

namespace Timely

lemma congr (h : Timely p r₀ es)
    (hb : es.map (fun e => { e with id := none }) = fs.map fun e => { e with id := none }) :
    Timely p r₀ fs := by
  rintro before e rest key rfl he
  rw [List.map_append, List.map_cons] at hb
  obtain ⟨before', tail, rfl, hbefore, htail⟩ := List.map_eq_append_iff.mp hb
  obtain ⟨e', rest', rfl, he', _⟩ := List.map_eq_cons_iff.mp htail
  rw [← Run.replay_congr hbefore]
  refine h _ _ _ _ rfl ?_
  simp only [Event.mk.injEq] at he'
  obtain ⟨_, hkind, _, _, hkey, hstatus, hpayload, _⟩ := he'
  exact ⟨hkind.trans he.1, hkey.trans he.2.1, by rw [Event.tellsFrom, hpayload]; exact he.2.2.1,
    hstatus.trans he.2.2.2⟩

lemma append (h : Timely p r₀ log)
    (hes : ∀ {before e rest key}, es = before ++ e :: rest → e.Begins key →
      (r₀.replay (log ++ before)).Ready p ((r₀.replay (log ++ before)).template key)) :
    Timely p r₀ (log ++ es) := by
  intro before e rest key heq he
  -- The entry is among the new ones, or among those of the log.
  rcases List.append_eq_append_iff.mp heq with ⟨mid, rfl, hes'⟩ | ⟨mid, rfl, hmid⟩
  · exact hes hes' he
  · cases mid with
    | nil =>
      have hes' : es = [] ++ e :: rest := hmid.symm
      simpa using hes hes' he
    | cons a mid =>
      obtain ⟨rfl, rfl⟩ := List.cons.inj hmid
      exact h _ _ _ _ rfl he

end Timely

lemma runId_eventsOf (hx : ∀ e, x ≠ .note e) : ∀ e ∈ r.eventsOf now x, e.runId = some r.id := by
  have hchange : ∀ {q : Run} {k u}, ∀ e ∈ q.changeEvents now k u, e.runId = some q.id := by
    intro q k u e he
    obtain ⟨_, _, _, _, rfl⟩ := Run.mem_changeEvents he
    rfl
  intro e he
  cases x with
  | move => exact hchange e he
  | spawn =>
    rcases List.mem_append.mp he with he | he
    · obtain ⟨t, _, rfl⟩ := List.mem_map.mp he
      rfl
    · have hrun := hchange e he
      exact hrun
  | note e => exact absurd rfl (hx e)

lemma begins_eventsOf (hx : r.Allowed p x) {before rest : List Event}
    (heq : r.eventsOf now x = before ++ e :: rest) (he : e.Begins key) :
    before = [] ∧ x.isClaim key = true ∧ r.Has key .pending := by
  have hmem : e ∈ r.eventsOf now x := by simp [heq]
  have hnot : ∀ {q : Run} {k : String} {u : NodeUpdate} {t : Status}, u.status = some t →
      t ≠ .running → e ∉ q.changeEvents now k u := by
    intro q k u t hu ht hin
    obtain ⟨_, t', _, hu', rfl⟩ := Run.mem_changeEvents hin
    obtain rfl := Option.some.inj (hu.symm.trans hu')
    exact ht (Status.name_injective (Option.some.inj he.2.2.2))
  cases hx with
  | @claim k s hs hm =>
    have hone : r.eventsOf now (.move k (.toStatus .running)) =
        [Store.statusChanged now r k s.status .running s.error] := Run.changeEvents_eq hs rfl
    rw [hone] at heq hmem
    obtain rfl := List.mem_singleton.mp hmem
    obtain ⟨_, hkey, hfrom, _⟩ := he
    obtain rfl := Option.some.inj hkey
    have hp := Event.tellsFrom_unique tellsFrom_statusChanged hfrom
    refine ⟨?_, by simp [Write.isClaim], s, hs, hp⟩
    cases before with
    | nil => rfl
    | cons a before => simp at heq
  | park | complete | fail => exact absurd hmem (hnot rfl (by simp))
  | spawn =>
    rcases List.mem_append.mp hmem with hmem | hmem
    · obtain ⟨t, _, rfl⟩ := List.mem_map.mp hmem
      cases he.1
    · exact absurd hmem (hnot rfl (by simp))
  | note hkind =>
    obtain rfl := List.mem_singleton.mp hmem
    cases hkind.symm.trans he.1

namespace Chronicle

lemma congr (h : Chronicle p r₀ es r)
    (hb : es.map (fun e => { e with id := none }) = fs.map fun e => { e with id := none }) :
    Chronicle p r₀ fs r :=
  ⟨Run.replay_congr hb ▸ h.mirrors, h.timely.congr hb⟩

lemma quiet (h : Chronicle p r₀ log r)
    (hes : ∀ e ∈ es, e.kind ≠ .nodeStatusChanged ∧ e.kind ≠ .instancesCreated) :
    Chronicle p r₀ (log ++ es) r where
  mirrors := by
    have hstay : ∀ q : Run, q.replay es = q := by
      intro q
      induction es with
      | nil => rfl
      | cons e rest ih =>
        obtain ⟨⟨hs, hi⟩, hrest⟩ := List.forall_mem_cons.mp hes
        change Run.replay (q.heed e) rest = q
        rw [Run.heed_other hs hi, ih hrest]
    rw [Run.replay_append, hstay]
    exact h.mirrors
  timely := h.timely.append fun heq he =>
    absurd he.1 (hes _ (heq ▸ List.mem_append_right _ List.mem_cons_self)).1

lemma after (h : Chronicle p r₀ log r) (hx : r.Allowed p x)
    (hready : ∀ key, x.isClaim key = true → r.Has key .pending → r.Ready p (r.template key)) :
    Chronicle p r₀ (log ++ r.eventsOf now x) (r.after now x) where
  mirrors := by
    rw [Run.replay_append]
    exact h.mirrors.after hx
  timely := h.timely.append fun heq he => by
    obtain ⟨rfl, hclaim, hpend⟩ := begins_eventsOf hx heq he
    rw [List.append_nil, h.mirrors.ready, h.mirrors.template]
    exact hready _ hclaim hpend

end Chronicle

section Recorded

variable (h : w.Hosts id p r) (hc : Chronicle p r₀ (w.store.logOf id) r)
include h hc

lemma Chronicle.record (hx : r.Allowed p x)
    (hready : ∀ key, x.isClaim key = true → r.Has key .pending → r.Ready p (r.template key)) :
    Chronicle p r₀ ((w.record id x).store.logOf id) (r.after w.now x) := by
  have hput : (∀ e, x ≠ .note e) →
      Chronicle p r₀ ((w.record id x).store.logOf id) (r.after w.now x) := by
    intro hno
    have hown : ((r.eventsOf w.now x).filter fun e => e.runId == some id) = r.eventsOf w.now x :=
      List.filter_eq_self.mpr fun e he => by simp [runId_eventsOf hno e he, h.id_eq]
    rw [World.record_eq h hno]
    refine (hc.after hx hready).congr ((Store.logOf_logAll _ _).trans ?_).symm
    rw [hown]
    rfl
  cases x with
  | move | spawn => exact hput (by simp)
  | note e =>
    cases hx with
    | note hkind =>
      refine (hc.quiet fun a ha => ?_).congr (Store.logOf_logAll w.store [e]).symm
      obtain rfl := List.mem_singleton.mp (List.mem_filter.mp ha).1
      simp [hkind]

lemma Chronicle.recordAll (hl : Lawful p w.now r ws) (hg : Engine.Gated p w.now r ws) :
    Chronicle p r₀ ((w.recordAll id ws).store.logOf id) (r.afterAll w.now ws) := by
  induction ws generalizing w r with
  | nil => exact hc
  | cons x rest ih =>
    cases hl with
    | cons hx hrest =>
      cases hg with
      | cons hready hg => exact ih (h.record x) (hc.record h hx hready) hrest hg

end Recorded

namespace Engine

open Store (holdsRevision)

/-- The worlds that a run lives through from its first row on, whether the operations on it return
or fail: it is started, and then there are calls on it, other than to fire a node, and whatever
leaves its row, its version and its entries alone. -/
inductive Course (p : Plan) (id : String) (r₀ : Run) : World → Prop where
  | started {e : Engine} {versionId : String} {v : FlowVersion} {trigger : Trigger}
      {entityId : Option String} {input : Option (Keyed Json)} {w : World} {s : Store}
      (hv : w.store.version? versionId = some v) (hp : v.plan = p) (hr : w.rival = none)
      (h₀ : created w v trigger entityId input = r₀) (hid : r₀.id = id)
      (hc : Store.createRun w.now r₀ w.store = .ok s)
      (hnew : w.store.logOf id = []) :
      Course p id r₀ ((Operation.start versionId trigger entityId input).after e w)
  | called {e : Engine} {c : Call} {w : World} (h : Course p id r₀ w)
      (hc : ∀ node, c ≠ .fire node) : Course p id r₀ ((Operation.call id c).after e w)
  | elsewhere {w w' : World} (h : Course p id r₀ w)
      (hrow : w'.store.run? id = w.store.run? id)
      (hv : w'.store.version? r₀.versionId = w.store.version? r₀.versionId)
      (hlog : w'.store.logOf id = w.store.logOf id) (hr : w'.rival = none) : Course p id r₀ w'

structure Tracked (p : Plan) (id : String) (r₀ : Run) (w : World) (r : Run) : Prop where
  hosts : w.Hosts id p r
  sound : r.Sound p
  fit : holdsRevision r.revision = true → Fit p r
  chronicle : Chronicle p r₀ (w.store.logOf id) r
  header : r₀.SameHeader r
  passage : Passage p r₀ r
  unstarted : ∀ {t}, t ∈ p.nodeIds → r.Has t .pending → startsIn id t w.store.events = 0

variable {e : Engine} {queue : List Message} {agenda left : List (List Message)} {f : Failure}

section Steps

variable (hwf : p.WellFormed)
include hwf

lemma Tracked.step (h : Tracked p id r₀ w r) (hq : ∀ q, Poised p q queue)
    (hs : (∃ failures, e.stepAndDeliver id queue w = .ok failures w') ∨
      ∃ f, e.stepAndDeliver id queue w = .error f w') : ∃ r', Tracked p id r₀ w' r' := by
  obtain ⟨ws, qs, hadv, rfl, _⟩ := stepAndDeliver_advances hwf h.hosts h.sound hs
  have hwaits := hadv.waits hwf h.sound fun hrev => ⟨h.fit hrev, hq r⟩
  refine ⟨_, hosts_handOver (h.hosts.recordAll ws), h.sound.afterAll hwf.child_mem hadv.lawful,
    hwaits.left, h.chronicle.recordAll h.hosts hadv.lawful hwaits.gated,
    h.header.trans (Run.sameHeader_afterAll ws), .tail h.passage hq hadv, fun {t} ht hp => ?_⟩
  obtain ⟨hpend, hnone⟩ := claimsIn_of_pending hadv.lawful (h.sound.node_mem ht) hp
  refine (startsIn_recordAll id t h.hosts hadv.lawful).trans ?_
  rw [if_pos rfl, h.unstarted ht hpend, hnone]

lemma Reaches.tracked (h : Reaches e id agenda w left w')
    (ha : ∀ queue ∈ agenda, ∀ q, Poised p q queue) (ht : ∃ r, Tracked p id r₀ w r) :
    (∀ queue ∈ left, ∀ q, Poised p q queue) ∧ ∃ r, Tracked p id r₀ w' r := by
  induction h with
  | refl => exact ⟨ha, ht⟩
  | @step queue agenda w failures w₁ left w' hs _ ih =>
    obtain ⟨r, ht⟩ := ht
    obtain ⟨hq, hrest⟩ := List.forall_mem_cons.mp ha
    refine ih (fun queue hmem => ?_) (ht.step hwf hq (.inl ⟨_, hs⟩))
    rcases List.mem_append.mp hmem with hmem | hmem
    · exact hrest queue hmem
    · obtain ⟨f, _, rfl⟩ := List.mem_map.mp hmem
      exact fun q => .command rfl

lemma Breaks.tracked (h : Breaks e id agenda w w') (ha : ∀ queue ∈ agenda, ∀ q, Poised p q queue)
    (ht : ∃ r, Tracked p id r₀ w r) : ∃ r, Tracked p id r₀ w' r := by
  obtain ⟨left, mid, hr, hend⟩ := h
  obtain ⟨hleft, r, hmid⟩ := hr.tracked hwf ha ht
  rcases hend with rfl | ⟨queue, rest, f, rfl, hs⟩
  · exact ⟨r, hmid⟩
  · exact hmid.step hwf (hleft queue List.mem_cons_self) (.inr ⟨f, hs⟩)

lemma Tracked.operation {op : Operation} {w₀ : World} (ho : op.opening w = some (id, queue, w₀))
    (hq : ∀ q, Poised p q queue) (ht : Tracked p id r₀ w₀ r) :
    ∃ r', Tracked p id r₀ (op.after e w) r' := by
  have ha : ∀ q ∈ [queue], ∀ row, Poised p row q := by simpa using hq
  rcases Operation.advance_after ho with hadv | ⟨f, hadv⟩
  · exact ((advance_ok hadv).tracked hwf ha ⟨r, ht⟩).2
  · exact (advance_error hadv).tracked hwf ha ⟨r, ht⟩

omit hwf in
lemma fit_newRun {v : FlowVersion} {t : Trigger} {entityId : Option String}
    (hwf : v.plan.WellFormed) : Fit v.plan (newRun id v t entityId now) where
  swift _ _ :=
    ⟨fun hst => absurd (has_newRun hst) (by simp), fun hst => absurd (has_newRun hst) (by simp)⟩
  spread _ _ _ hc := absurd (has_newRun hc) (by simp)
  late {y m t} _ _ ht _ hp := by
    obtain ⟨s, hs⟩ := (newRun_sound hwf id _ entityId now).node_state
      (hwf.child_mem (Plan.mem_fannedOut.mp ht).1)
    exact absurd ⟨s, hs, has_newRun ⟨s, hs, rfl⟩⟩ hp

omit hwf in
lemma poised_entryNodes (hwf : p.WellFormed) (q : Run) : Poised p q (p.entryNodes.map .fire) := by
  refine .onward fun m hm => ?_
  obtain ⟨t, ht, rfl⟩ := List.mem_map.mp hm
  refine .inr ⟨t, rfl, fun s hs => ?_⟩
  rw [(hwf.entry_iff.mp ht).2] at hs
  cases hs

omit hwf in
lemma Call.poised {c : Call} {q : Run} (hc : ∀ node, c ≠ .fire node) : Poised p q [c.message] := by
  cases c with
  | callback | submit | retry | reconcile => exact .command rfl
  | walk key => exact .onward (by simp [Call.message])
  | fire node => exact absurd rfl (hc node)

omit hwf in
lemma chronicle_created (hnew : w.store.logOf r.id = []) :
    Chronicle p r ((withCreated w r).store.logOf r.id) r := by
  have hempty : Chronicle p r (w.store.logOf r.id) r := by
    rw [hnew]
    exact ⟨.refl, fun before e rest key heq => by simp at heq⟩
  have hquiet : ∀ e ∈ [Store.runStarted w.now r].filter (fun e => e.runId == some r.id),
      e.kind ≠ .nodeStatusChanged ∧ e.kind ≠ .instancesCreated := by
    simp [Store.runStarted]
  exact (hempty.quiet hquiet).congr (Store.logOf_logAll { w.store with runs := _ } _).symm

lemma Course.tracked (h : Course p id r₀ w) : ∃ r, Tracked p id r₀ w r := by
  induction h with
  | @started e versionId v trigger entityId input w s hv hp hr h₀ hid hc hnew =>
    subst hp h₀ hid
    obtain ⟨hnone, _⟩ := Store.createRun_ok hc
    have ho : Operation.opening w (.start versionId trigger entityId input) =
        some ((created w v trigger entityId input).id, v.plan.entryNodes.map .fire,
          withCreated w (created w v trigger entityId input)) := by
      simp [Operation.opening, hv, hc]
    exact Tracked.operation hwf ho (poised_entryNodes hwf)
      ⟨hosts_withCreated hv hr hnone, newRun_sound hwf _ _ _ _, fun _ => fit_newRun hwf,
        chronicle_created hnew, .refl _, .refl,
        fun _ _ => (startsIn_withCreated _ _ _).trans
          (Store.startsIn_eq_logOf.trans (by rw [hnew]; rfl))⟩
  | @called e c w _ hc ih =>
    obtain ⟨r, ht⟩ := ih
    exact Tracked.operation hwf rfl (fun q => Call.poised hc) ht
  | @elsewhere w w' _ hrow hv hlog hr ih =>
    obtain ⟨r, ht⟩ := ih
    refine ⟨r, ⟨hrow.trans ht.hosts.row, ?_, hr⟩, ht.sound, ht.fit, hlog ▸ ht.chronicle,
      ht.header, ht.passage, fun hmem hp => ?_⟩
    · rw [ht.header.versionId, hv, ← ht.header.versionId]
      exact ht.hosts.version
    · rw [Store.startsIn_eq_logOf, hlog, ← Store.startsIn_eq_logOf]
      exact ht.unstarted hmem hp

omit hwf in
lemma Course.first (h : Course p id r₀ w) : ∃ (v : FlowVersion) (trigger : Trigger)
    (entityId : Option String) (now : Instant),
    v.plan = p ∧ r₀ = newRun id v trigger entityId now := by
  induction h with
  | started hv hp hr h₀ hid =>
    subst h₀ hid
    exact ⟨_, _, _, _, hp, rfl⟩
  | called _ _ ih => exact ih
  | elsewhere _ _ _ _ _ ih => exact ih

lemma Course.carries {J : Run → Prop} (h : Course p id r₀ w) (he : Endures p J)
    (hj : ∀ (v : FlowVersion) trigger entityId now, v.plan = p →
      J (newRun id v trigger entityId now)) : ∃ r, Tracked p id r₀ w r ∧ J r := by
  obtain ⟨r, ht⟩ := h.tracked hwf
  obtain ⟨v, trigger, entityId, now, rfl, rfl⟩ := h.first
  exact ⟨r, ht, ht.passage.carries hwf he (newRun_sound hwf _ _ _ _) (fun _ => fit_newRun hwf)
    (hj v _ _ _ rfl)⟩

end Steps

/-- Whether the operations on a run return or fail: its log tells how its row came about, and
whenever it tells of the start of a pending key, all sources of the node are done on the row as it
was until then. -/
theorem starts_wait_for_sources {c : Canvas} {catalogue : Catalogue}
    (hc : c.compile catalogue = .ok p) (h : Course p id r₀ w) :
    ∃ r, w.store.run? id = some r ∧ (r₀.replay (w.store.logOf id)).Mirrors r ∧
      ∀ before e rest key, w.store.logOf id = before ++ e :: rest → e.Begins key →
        ∀ s ∈ p.parents ((r₀.replay before).template key),
          (r₀.replay before).Done p ((r₀.replay before).template key) s := by
  obtain ⟨r, ht⟩ := h.tracked (Canvas.compile_wellFormed hc)
  exact ⟨r, ht.hosts.row, ht.chronicle.mirrors, ht.chronicle.timely⟩

lemma Course.of_startFor {fuel : Nat} {versionId : String} {v : FlowVersion} {trigger : Trigger}
    {entityId : Option String} {input : Option (Keyed Json)}
    (hv : w.store.version? versionId = some v) (hp : v.plan = p) (hr : w.rival = none)
    (hnew : w.store.logOf id = [])
    (h : e.startFor fuel versionId trigger entityId input w = some (id, w')) :
    ∃ r₀, Course p id r₀ w' := by
  obtain ⟨_, v', s, hv', hc, _, hid⟩ := startFor_sound h
  obtain rfl := Option.some.inj (hv.symm.trans hv')
  have hstarted : Course p id (created w v trigger entityId input)
      ((Operation.start versionId trigger entityId input).after e w) :=
    .started hv hp hr rfl hid hc hnew
  exact ⟨_, (Operation.start_of_startFor h).1 ▸ hstarted⟩

def fanOutBesideWorker : Canvas where
  nodes? := some [.bare "split" .splitter [("array_path", .str "items")],
    .bare "each" .worker [("webhook_url", .str "http://worker")],
    .bare "other" .worker [("webhook_url", .str "http://worker")], .bare "join" .collector []]
  edges? := some [.bare "split" "each" [], .bare "each" "join" [], .bare "other" "join" []]

theorem join_started_after_branches : ∃ (id : String) (r₀ r : Run) (w : World)
    (before rest : List Event) (e : Event),
    Course (.ofCanvas fanOutBesideWorker []) id r₀ w ∧ w.store.run? id = some r ∧
      (r₀.replay (w.store.logOf id)).Mirrors r ∧ w.store.logOf id = before ++ e :: rest ∧
      e.Begins "join" ∧
      ∀ s ∈ Plan.parents (.ofCanvas fanOutBesideWorker []) ((r₀.replay before).template "join"),
        (r₀.replay before).Done (.ofCanvas fanOutBesideWorker [])
          ((r₀.replay before).template "join") s := by
  -- A retry fails, as nothing has failed yet; one worker fails and another one completes, and then
  -- the collector is started.
  have hc := Canvas.compile_of_checks (c := fanOutBesideWorker) (by decide +kernel)
    (by decide +kernel) (by decide +kernel)
  obtain ⟨⟨id, w₀⟩, hstart, w₁, hretry, w₂, hfailed, w₃, hcompleted, e, hmem, hbegins⟩ :=
    exists_of_any
      (x := accepting.startFor 20 "version" .byHand none (some [("items", .arr [.str "a"])])
        (.ofCanvas fanOutBesideWorker))
      (P := fun x => ∃ w₁ ∈ accepting.failFor 20 x.1 (.retry "other") x.2,
        ∃ w₂ ∈ accepting.returnFor 20 x.1 (.callback "other" (.failure "no")) w₁,
        ∃ w₃ ∈ accepting.returnFor 20 x.1 (.callback "each_0" ⟨.completed, .str "b", none⟩) w₂,
        ∃ e ∈ w₃.store.logOf x.1, e.Begins "join") (by decide +kernel)
  obtain ⟨r₀, hcourse⟩ := Course.of_startFor rfl rfl rfl rfl hstart
  have hcourse₁ : Course (.ofCanvas fanOutBesideWorker []) id r₀ w₁ :=
    Operation.after_of_failFor hretry ▸ .called hcourse (by simp)
  have hcourse₂ : Course (.ofCanvas fanOutBesideWorker []) id r₀ w₂ :=
    (Operation.call_of_returnFor hfailed).1 ▸ .called hcourse₁ (by simp)
  have hcourse₃ : Course (.ofCanvas fanOutBesideWorker []) id r₀ w₃ :=
    (Operation.call_of_returnFor hcompleted).1 ▸ .called hcourse₂ (by simp)
  obtain ⟨before, rest, hlog⟩ := List.append_of_mem hmem
  obtain ⟨r, hr, hmirrors, hwait⟩ := starts_wait_for_sources hc hcourse₃
  exact ⟨id, r₀, r, w₃, before, rest, e, hcourse₃, hr, hmirrors, hlog, hbegins,
    hwait before e rest "join" hlog hbegins⟩

end Engine

end Workflow
