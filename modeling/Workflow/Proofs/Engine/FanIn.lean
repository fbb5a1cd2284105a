import Workflow.Proofs.Engine.Collected
import Workflow.Proofs.Engine.Flowing
import Workflow.Proofs.Engine.Recovered
import Workflow.Proofs.Engine.Supply

/-! A fan-out and the fan-in behind it: a worker whose one source is a splitter, and a collector
whose one source is the worker. -/

namespace Workflow.Engine

open Run (Lawful)
open Store (holdsRevision)

structure Funnel (p : Plan) (S W C : PlanNode) (mode : CollectMode) : Prop where
  splitter : p.node? S.id = some S ∧ S.kind = .splitter
  worker : p.node? W.id = some W ∧ W.kind = .worker ∧ p.parents W.id = [S.id]
  collector : p.node? C.id = some C ∧ C.kind = .collector ∧ p.parents C.id = [W.id]
  mode : collectMode C = .ok mode

instance {p : Plan} {S W C : PlanNode} {mode : CollectMode} : Decidable (Funnel p S W C mode) :=
  decidable_of_iff ((p.node? S.id = some S ∧ S.kind = .splitter) ∧
      (p.node? W.id = some W ∧ W.kind = .worker ∧ p.parents W.id = [S.id]) ∧
      (p.node? C.id = some C ∧ C.kind = .collector ∧ p.parents C.id = [W.id]) ∧
      collectMode C = .ok mode)
    ⟨fun ⟨hs, hw, hc, hm⟩ => ⟨hs, hw, hc, hm⟩,
      fun h => ⟨h.splitter, h.worker, h.collector, h.mode⟩⟩

/-- The worlds of a run since the step that fanned the worker out over `count` items, with the
reports on the run since then. That step returned, and all its requests were accepted. -/
inductive FanIn (p : Plan) (id worker : String) (count : Nat) : Keyed Callback → World → Prop where
  | started {e : Engine} {versionId : String} {v : FlowVersion} {trigger : Trigger}
      {entityId : Option String} {input : Option (Keyed Json)} {r : Run} {w w' : World}
      (hv : w.store.version? versionId = some v) (hp : v.plan = p) (hr : w.rival = none)
      (hnew : w.store.logOf id = [])
      (h : e.startRun versionId trigger entityId input w = .ok r w') (hid : r.id = id)
      (hacc : w.AcceptedSince w') (hfan : Keyed.find? r.instances worker = some (indices count)) :
      FanIn p id worker count [] w'
  | called {e : Engine} {c : Call} {r₀ r r' : Run} {w w' : World} (h : Course p id r₀ w)
      (hc : ∀ node, c ≠ .fire node) (hp : c.perform e id w = .ok () w') (hacc : w.AcceptedSince w')
      (hr : w.store.run? id = some r) (hwhole : r.hasInstances worker = false)
      (hr' : w'.store.run? id = some r')
      (hfan : Keyed.find? r'.instances worker = some (indices count)) :
      FanIn p id worker count [] w'
  | reported {e : Engine} {key : String} {c : Callback} {cs : Keyed Callback} {r : Run}
      {w w' : World} (h : FanIn p id worker count cs w)
      (hc : e.handleCallback id key c w = .ok r w') : FanIn p id worker count (cs ++ [(key, c)]) w'
  | elsewhere {cs : Keyed Callback} {w w' : World} (h : FanIn p id worker count cs w)
      (hrow : w'.store.run? id = w.store.run? id)
      (hv : ∀ v, w'.store.version? v = w.store.version? v)
      (hlog : w'.store.logOf id = w.store.logOf id) (hr : w'.rival = none) :
      FanIn p id worker count cs w'

def firstResult (cs : Keyed Callback) (key : String) : Option WorkerResult :=
  (Keyed.find? cs key).map (·.result)

def gathered (worker : String) (count : Nat) (cs : Keyed Callback) : List (String × Json) :=
  (Store.firstInstances worker count).filterMap fun key =>
    (Keyed.find? cs key).bind fun c =>
      if c.result = .completed then some (key, c.output) else none

def joined (mode : CollectMode) (outputs : List (String × Json)) : Json :=
  match mode with
  | .array => .arr (outputs.map (·.2))
  | .keyed => .obj outputs
  | .first => (outputs.head?.map (·.2)).getD .null

structure Streaming (p : Plan) (S W C : PlanNode) (r : Run) (queue : List Message) (claims : Nat) :
    Prop where
  spun : Spun p r
  spared : Spared p r
  tally : Tally p C r claims
  awaited : r.Open C.id → r.Ready p C.id → Awaited p r queue C.id
  flowing : r.hasInstances W.id = true → Flowing p S.id W.id r queue
  fresh : ∀ key, .retry key ∈ queue → r.Has C.id .pending

variable {p : Plan} {now : Instant} {r r' snap : Run} {S W C n : PlanNode} {mode : CollectMode}
  {key k s t : String} {ws : List Write} {o : Outcome} {m : Message} {queue rest : List Message}
  {qs : List Request} {claims : Nat}

namespace Funnel

variable (hf : Funnel p S W C mode) (hwf : p.WellFormed)
include hf

lemma worker_plain : p.isCollector W.id = false := by
  obtain ⟨hw, hk, _⟩ := hf.worker
  simp [Plan.isCollector, hw, hk]

lemma worker_mem : W.id ∈ p.nodeIds := Plan.mem_nodeIds_iff.mpr ⟨W, hf.worker.1⟩

lemma collector_mem : C.id ∈ p.nodeIds := Plan.mem_nodeIds_iff.mpr ⟨C, hf.collector.1⟩

lemma collector_whole (hwf : p.WellFormed) (hspun : Spun p r) : r.hasInstances C.id = false := by
  by_contra hi
  obtain ⟨_, m, hm, hkind, hc, _⟩ := hspun C.id (by simpa using hi)
  have hid : m.id = W.id := by
    have hmem := hwf.parents_iff.mpr hc
    rwa [hf.collector.2.2, List.mem_singleton] at hmem
  rw [← hwf.id_eq hm, hid, hf.worker.1] at hm
  obtain rfl := Option.some.inj hm
  rw [hf.worker.2.1] at hkind
  cases hkind

end Funnel

section Step

variable (hwf : p.WellFormed) (hf : Funnel p S W C mode)
include hwf hf

lemma Streaming.step (hso : r.Sound p) (hq : Poised p r (m :: rest)) (hm : Handled p now r m ws o)
    (hl : Lawful p now r ws) (hspared : Spared p (r.afterAll now ws))
    (h : Streaming p S W C r (m :: rest) claims) :
    Streaming p S W C (r.afterAll now ws) (rest ++ o.messages) (claims + claimsIn C.id ws) where
  spun := (lasts_spun hwf).afterAll hwf hso hl h.spun
  spared := hspared
  tally := h.tally.step hwf hso hf.collector.1 hf.collector.2.1 (hf.collector_whole hwf h.spun) hq
    hm hl (fun key he => h.fresh key (he ▸ List.mem_cons_self)) hspared
  awaited ho hr := Awaited.step hwf hso hf.collector_mem h.awaited hm hl ho hr
  flowing hi := hm.flows hwf hso h.spared hf.worker.2.2 hf.worker_plain hf.worker_mem h.spun
    h.flowing hl hspared hi
  fresh key hmem := by
    -- A retry comes alone and from outside.
    rcases List.mem_append.mp hmem with hmem | hmem
    · cases hq with
      | command => cases hmem
      | onward hall =>
        rcases hall _ (List.mem_cons_of_mem _ hmem) with ⟨_, he⟩ | ⟨_, he, _⟩ <;> cases he
    · cases hm.no_command _ hmem

lemma Drained.streams {id : String} {w : World} (hd : Drained p w.now r queue ws qs)
    (hh : w.Hosts id p r) (hso : r.Sound p) (hpos : 0 ≤ r.revision)
    (hend : holdsRevision (r.afterAll w.now ws).revision = true)
    (hfit : holdsRevision r.revision = true → Fit p r) (hq : Poised p r queue)
    (h : Streaming p S W C r queue (startsIn id C.id w.store.events)) :
    Fit p (r.afterAll w.now ws) ∧ Streaming p S W C (r.afterAll w.now ws) []
      (startsIn id C.id (w.recordAll id ws).store.events) := by
  let K (r' : Run) (queue : List Message) (done : List Write) (_ : List Request) : Prop :=
    Streaming p S W C r' queue (startsIn id C.id w.store.events + claimsIn C.id done)
  have hstep : ∀ {r' : Run} {m : Message} {rest : List Message} {done : List Write}
      {sent : List Request} {ws : List Write} {o : Outcome}, r'.Sound p →
      holdsRevision r'.revision = true → Fit p r' → Poised p r' (m :: rest) →
      Handled p w.now r' m ws o → Lawful p w.now r' ws →
      holdsRevision (r'.afterAll w.now ws).revision = true → K r' (m :: rest) done sent →
      K (r'.afterAll w.now ws) (rest ++ o.messages) (done ++ ws) (sent ++ o.requests) := by
    intro r' m rest done sent ws o hso hrev hfit hq hm hl hrev' hk
    have hspared := (endures_spared hwf).handled hso hrev hfit hq hm hl (fun _ => hk.spared) hrev'
    have hnext := Streaming.step hwf hf hso hq hm hl hspared hk
    rwa [Nat.add_assoc, ← claimsIn_append] at hnext
  have hguided : Fit p (r.afterAll w.now ws) ∧ K (r.afterAll w.now ws) [] ([] ++ ws) ([] ++ qs) :=
    hd.guides hwf @hstep hso hpos hend hfit hq h
  have hcount := startsIn_recordAll id C.id hh hd.lawful
  rw [if_pos rfl] at hcount
  exact hcount ▸ hguided

omit hwf hf in
lemma Streaming.mono (h : Streaming p S W C r [] claims) (hq : ∀ key, .retry key ∉ queue) :
    Streaming p S W C r queue claims where
  spun := h.spun
  spared := h.spared
  tally := h.tally
  awaited ho hr := (h.awaited ho hr).mono (List.nil_subset _)
  flowing hi := ⟨fun ho hr => ((h.flowing hi).awaited ho hr).mono (List.nil_subset _),
    (h.flowing hi).spent⟩
  fresh key hmem := absurd hmem (hq key)

lemma Streaming.ends (hso : r.Sound p) (hfit : Fit p r) (hi : r.hasInstances W.id = true)
    (h : Streaming p S W C r [] claims) :
    ¬ r.Open W.id ∧ (r.Ready p C.id → ¬ r.Has C.id .pending) := by
  obtain ⟨hready, hclosed, hnone⟩ := (h.flowing hi).ends hwf hso h.spared hf.worker.2.2 hfit
    ⟨S, hf.splitter⟩ h.spun hi
  have hwhole : ¬ r.hasInstances C.id = true := by simp [hf.collector_whole hwf h.spun]
  refine ⟨hclosed, fun hr hp => ?_⟩
  have hawaited := h.awaited ⟨C.id, by rw [Run.keysOf, if_neg hwhole, List.mem_singleton], hp⟩ hr
  obtain ⟨s, hs, _, hbehind⟩ := hawaited.hollow_source
  rw [hf.collector.2.2, List.mem_singleton] at hs
  subst hs
  exact hnone (hbehind hready)

end Step

/-! The step that fans the worker out -/

section Drained

variable (hwf : p.WellFormed) (hso : r.Sound p)
include hwf hso

lemma Handled.not_begun_of_new (hfit : Fit p r) (h : Handled p now r m ws o)
    (hc : m.isCommand = true) (hk : k ∉ Keyed.keys r.states) : ¬ (r.afterAll now ws).Begun k := by
  rintro ⟨st, hne, hst⟩
  have hold : ¬ r.Has k st := fun ⟨_, ha, _⟩ => hk (Run.mem_keys_of_state? ha)
  have hnew : ∀ {n key source}, r.Has key source → ¬ Stirs p n key r (r.afterAll now ws) := by
    intro n key source hs hstirs
    obtain ⟨a, ha, _⟩ := id hs
    have hmem := Run.mem_keys_of_state? ha
    exact hne (hstirs.pending_of_new (fun he : k = key => hk (he ▸ hmem)) hk hst)
  have hanswer : (∃ key c, m = .callback key c) ∨ (∃ key x, m = .resume key x) → False := by
    intro hm
    rcases h.answer_stirs hwf hso hfit hm with heq | ⟨_, _, _, _, _, hs, _, hstirs⟩
    · exact hold (heq ▸ hst)
    · exact hnew hs hstirs
  cases h with
  | walked | strayed | missing | hollow | instances | whole => cases hc
  | ignored | reported => exact hanswer (.inl ⟨_, _, rfl⟩)
  | resumed => exact hanswer (.inr ⟨_, _, rfl⟩)
  | reconciled => exact hold hst
  | retried hs hst' hn _ hw => exact hnew ⟨_, hs, hst'⟩ (hw.stirs hwf hso ⟨_, hs, hst'⟩ hn)

lemma Drained.grows_onward (hfit : Fit p r) (hd : Drained p now r queue ws qs)
    (hq : Poised p r queue) :
    ∃ q qs', Grows p q (r.afterAll now ws) qs' ∧ ∀ k ∉ Keyed.keys r.states, ¬ q.Begun k := by
  cases hq with
  | command hc =>
    cases hd with
    | @next _ _ _ ws o xs qs hm hl hd =>
      have hgrows := hd.grows hwf (hso.afterAll hwf.child_mem hl) hm.no_command
      exact ⟨_, _, Run.afterAll_append ▸ hgrows, fun k hk => hm.not_begun_of_new hwf hso hfit hc hk⟩
  | onward hall =>
    refine ⟨r, qs, hd.grows hwf hso fun a ha => ?_, fun k hk ⟨_, _, _, ha, _⟩ => ?_⟩
    · rcases hall a ha with ⟨_, rfl⟩ | ⟨_, rfl, _⟩ <;> rfl
    · exact hk (Run.mem_keys_of_state? ha)

lemma Drained.running_of_new (hfit : Fit p r) (hd : Drained p now r queue ws qs)
    (hq : Poised p r queue) (hn : p.node? n.id = some n) (hkind : n.kind = .worker)
    (hold : r.hasInstances n.id = false) (hclosed : ¬ (r.afterAll now ws).Open n.id)
    (hk : k ∈ instanceTexts (r.afterAll now ws) n.id) : (r.afterAll now ws).Has k .running := by
  have hso' := hso.afterAll hwf.child_mem hd.lawful
  obtain ⟨q, qs', hgrows, hnew⟩ := hd.grows_onward hwf hso hfit hq
  obtain ⟨a, ha⟩ := hso'.text_state hk
  have hne : a.status ≠ .pending := by
    intro hp
    refine hclosed ⟨k, ?_, a, ha, hp⟩
    rwa [Run.keysOf, if_pos (Run.Sound.hasInstances_of_mem hk)]
  have hfresh : k ∉ Keyed.keys r.states := by
    intro hmem
    obtain ⟨i, _, hi, rfl⟩ := Run.mem_instanceTexts.mp hk
    obtain ⟨j, hj, he⟩ := (hso.key_cases hmem).resolve_left (hso'.instanceText_ne hk)
    rw [InstanceKey.text_injective he] at hj
    have hinst := Run.Sound.hasInstances_of_mem (Run.mem_instanceTexts.mpr ⟨i, hj, hi, rfl⟩)
    rw [hold] at hinst
    cases hinst
  have hnode : p.node? ((r.afterAll now ws).template k) = some n := by
    rwa [hso'.template_instanceText hk]
  have hrun := ((hgrows.begun (hnew k hfresh) hnode ⟨a, ha, rfl⟩ hne).1 hkind).1
  exact ⟨a, ha, hrun⟩

end Drained

/-! What a run gathers -/

inductive Heard (r : Run) (k : String) : Option Callback → Prop where
  | silent (h : r.Has k .running) : Heard r k none
  | completed {c : Callback} (hc : c.result = .completed) (h : r.result? k = some c.output) :
      Heard r k (some c)
  | failed {c : Callback} (hc : c.result = .failed) (h : r.Has k .failed) : Heard r k (some c)

structure Gathering (p : Plan) (S W C : PlanNode) (id : String) (n : Nat) (cs : Keyed Callback)
    (w : World) (r : Run) : Prop where
  hosts : w.Hosts id p r
  sound : r.Sound p
  fit : Fit p r
  nonneg : 0 ≤ r.revision
  indexed : Keyed.find? r.instances W.id = some (indices n)
  heard : ∀ k ∈ Store.firstInstances W.id n, Heard r k (Keyed.find? cs k)
  streaming : Streaming p S W C r [] (startsIn id C.id w.store.events)

variable {id : String} {w w' w₀ : World} {e : Engine} {r₀ : Run} {count : Nat} {c : Callback}
  {cs : Keyed Callback} {failures : List (String × Callback)} {left agenda : List (List Message)}

lemma FanIn.of_playFor {worker : String} {ds : Keyed Callback} {fuel : Nat}
    (h : FanIn p id worker count cs w)
    (hplay : e.playFor fuel id (ds.map fun d => .callback d.1 d.2) w = some w') :
    FanIn p id worker count (cs ++ ds) w' := by
  induction ds generalizing cs w with
  | nil =>
    obtain rfl := Option.some.inj hplay
    rwa [List.append_nil]
  | cons d rest ih =>
    obtain ⟨w₁, hreturn, hplay⟩ := Option.bind_eq_some_iff.mp hplay
    have hperform := performFor_sound (returnFor_eq hreturn)
    obtain ⟨r, w₂, hreported, hpure⟩ := Action.bind_eq_ok.mp hperform
    obtain ⟨_, rfl⟩ := EStateM.Result.ok.inj hpure
    have hnext := ih (.reported h hreported) hplay
    rwa [List.append_assoc] at hnext

namespace Heard

lemma begun {x : Option Callback} (h : Heard r k x) : r.Begun k := by
  cases h with
  | silent h | failed _ h => exact ⟨_, by simp, h⟩
  | completed _ h => exact ⟨_, by simp, Run.has_of_result? h⟩

lemma settled (h : Heard r k (some c)) : r.Settled k := by
  cases h with
  | completed _ h => exact .inl (Run.has_of_result? h)
  | failed _ h => exact .inr h

lemma result {x : Option Callback} (h : Heard r k x) :
    r.result? k = x.bind fun c => if c.result = .completed then some c.output else none := by
  have hnone : ∀ {st}, r.Has k st → st ≠ .completed → r.result? k = none := by
    intro st hst hne
    obtain ⟨v, hv, rfl⟩ := Run.has_iff_shown.mp hst
    rw [Run.result?, hv, Option.bind_some, if_neg hne]
  cases h with
  | silent h => exact hnone h (by simp)
  | completed hc h => rw [h, Option.bind_some, if_pos hc]
  | failed hc h => rw [hnone h (by simp), Option.bind_some, hc, if_neg (by simp)]

lemma congr {x : Option Callback} (h : Heard r k x) (hk : r'.shown? k = r.shown? k) :
    Heard r' k x := by
  cases h with
  | silent h => exact .silent ((Run.has_congr hk).mpr h)
  | completed hc h => exact .completed hc (by rwa [Run.result?, hk])
  | failed hc h => exact .failed hc ((Run.has_congr hk).mpr h)

lemma grows {x : Option Callback} (h : Heard r k x) (hg : Grows p r r' qs) : Heard r' k x := by
  obtain ⟨st, _, hst⟩ := id h.begun
  obtain ⟨v, hv, _⟩ := Run.has_iff_shown.mp hst
  exact h.congr ((hg.kept h.begun hv).trans hv.symm)

lemma reported (hwf : p.WellFormed) (hso : r.Sound p) (h : Heard r k (Keyed.find? cs k))
    (hm : Handled p now r (.callback key c) ws o) :
    Heard (r.afterAll now ws) k (Keyed.find? (cs ++ [(key, c)]) k) := by
  rw [Keyed.find?_append]
  cases hx : Keyed.find? cs k with
  | some c' =>
    rw [hx] at h
    exact h.congr (hm.settled_kept hwf hso (by simp) h.settled)
  | none =>
    rw [hx] at h
    cases h with
    | silent hrun =>
      obtain ⟨v, hv, _⟩ := Run.has_iff_shown.mp hrun
      by_cases hk : key = k
      · subst hk
        have hfind : Keyed.find? [(key, c)] key = some c := if_pos rfl
        rw [hfind, Option.none_or]
        cases hm with
        | ignored hno => exact absurd hrun hno
        | reported _ hnotes =>
          rw [Run.afterAll_cons, afterAll_notes hnotes, Run.after]
          have hshown : (r.update now key (Engine.reported c)).shown? key =
              some (showAfter (Engine.reported c) v) := shown?_update_self hv
          cases hc : c.result with
          | completed =>
            refine .completed hc ?_
            rw [Run.result?, hshown, Engine.reported, hc]
            rfl
          | failed =>
            refine .failed hc (Run.has_iff_shown.mpr ⟨_, hshown, ?_⟩)
            rw [Engine.reported, hc]
            rfl
      · have hfind : Keyed.find? [(key, c)] k = none := if_neg hk
        rw [hfind, Option.none_or]
        refine .silent ?_
        cases hm with
        | ignored => exact hrun
        | reported hs hnotes =>
          rw [Run.afterAll_cons, afterAll_notes hnotes, Run.after]
          exact (Run.has_congr (shown?_update_of_ne (Ne.symm hk))).mpr hrun

end Heard

section Funnel

variable (hwf : p.WellFormed) (hf : Funnel p S W C mode)
include hwf hf

def Primed (p : Plan) (r : Run) : Prop :=
  Supplied p r ∧ Spun p r ∧ (holdsRevision r.revision = true → Spared p r)

omit hf in
lemma endures_primed : Endures p (Primed p) :=
  (endures_supplied hwf).and (((lasts_spun hwf).endures hwf).and (endures_spared hwf))

omit hwf in
lemma Stands.streaming (h : Stands Primed p r) (hrev : holdsRevision r.revision = true)
    (hwp : r.Has W.id .pending) (hold : r.hasInstances W.id = false)
    (hzero : r.Has C.id .pending → claims = 0) : Streaming p S W C r queue claims := by
  obtain ⟨_, _, _, hsupplied, hspun, hspared⟩ := h
  have hmem : W.id ∈ p.parents C.id := by simp [hf.collector.2.2]
  have hcp : r.Has C.id .pending := by
    by_contra hno
    rcases hsupplied C.id hf.collector_mem hno W.id hmem with hfed | ⟨_, hbegun⟩
    · exact absurd (hwp.unique (hfed.resolve_left (by simp [hold]))) (by simp)
    · exact hbegun hwp
  have hnot : ¬ r.Ready p C.id := fun hr =>
    hwp.not_settled rfl ((hr W.id hmem).settled (by simp [Run.keysOf, hold]))
  exact ⟨hspun, hspared hrev, .waiting hcp (hzero hcp), fun _ hr => absurd hr hnot,
    fun hnew => absurd hnew (by simp [hold]), fun _ _ => hcp⟩

lemma Stands.gathering (h : Stands Primed p r) (hh : w.Hosts id p r) (hq : Poised p r queue)
    (hstarts : ∀ {t}, t ∈ p.nodeIds → r.Has t .pending → startsIn id t w.store.events = 0)
    (hd : Drained p w.now r queue ws qs)
    (hend : holdsRevision (r.afterAll w.now ws).revision = true)
    (hold : r.hasInstances W.id = false)
    (hfan : Keyed.find? (r.afterAll w.now ws).instances W.id = some (indices count)) :
    Gathering p S W C id count [] (e.handOver (w.recordAll id ws) qs) (r.afterAll w.now ws) := by
  have hstands := h
  obtain ⟨hso, hpos, hfit, _, _, hspared⟩ := h
  have hrev := holds_of_lawful hd.lawful hpos hend
  have hi : (r.afterAll w.now ws).hasInstances W.id = true := Run.hasInstances_iff.mpr ⟨_, hfan⟩
  have hspared' : Spared p (r.afterAll w.now ws) :=
    (endures_spared hwf).drained hwf hd hso hpos hend hfit hq hspared hend
  -- What is fanned out in the end was never begun as a whole.
  obtain ⟨hwp, _⟩ :=
    claimsIn_of_pending hd.lawful (hso.node_mem hf.worker_mem) (hspared'.own hf.worker_mem hi)
  obtain ⟨hfit', hstreaming⟩ := hd.streams hwf hf hh hso hpos hend hfit hq
    (hstands.streaming hf hrev hwp hold (hstarts hf.collector_mem))
  have hso' := hso.afterAll hwf.child_mem hd.lawful
  obtain ⟨hclosed, _⟩ := hstreaming.ends hwf hf hso' hfit' hi
  refine ⟨hosts_handOver (hh.recordAll ws), hso', hfit',
    lasts_nonneg.afterAll hwf hso hd.lawful hpos, hfan, fun k hk => ?_, hstreaming⟩
  rw [← Run.instanceTexts_of_find? hfan] at hk
  obtain ⟨hw, hkind, _⟩ := hf.worker
  exact .silent (hd.running_of_new hwf hso (hfit hrev) hq hw hkind hold hclosed hk)

lemma Reaches.gathering_of_primed (h : Reaches e id [queue] w [] w') (hs : Stands Primed p r)
    (hh : w.Hosts id p r) (hq : Poised p r queue)
    (hstarts : ∀ {t}, t ∈ p.nodeIds → r.Has t .pending → startsIn id t w.store.events = 0)
    (hacc : w₀.AcceptedSince w') (hw : w.sent = w₀.sent) (hold : r.hasInstances W.id = false)
    (hr' : w'.store.run? id = some r')
    (hfan : Keyed.find? r'.instances W.id = some (indices count)) :
    ∃ r, Gathering p S W C id count [] w' r := by
  obtain ⟨ws, qs, hd, hend, rfl⟩ := h.acceptedSince hwf hh hs.sound hacc hw
  have hhosts : (e.handOver (w.recordAll id ws) qs).Hosts id p (r.afterAll w.now ws) :=
    hosts_handOver (hh.recordAll ws)
  obtain rfl := Option.some.inj (hr'.symm.trans hhosts.row)
  exact ⟨_, hs.gathering hwf hf hh hq hstarts hd hend hold hfan⟩

lemma Gathering.reported (h : Gathering p S W C id count cs w r)
    (hs : e.stepAndDeliver id [.callback key c] w = .ok failures w') :
    (∃ r', Gathering p S W C id count (cs ++ [(key, c)]) w' r') ∧
      ∀ f ∈ failures, f.1 ∉ Store.firstInstances W.id count := by
  obtain ⟨ws, qs, hd, hrev, rfl, rfl⟩ := stepAndDeliver_ok hwf h.hosts h.sound hs
  have hso' := h.sound.afterAll hwf.child_mem hd.lawful
  obtain ⟨hfit, hstreaming⟩ := hd.streams hwf hf h.hosts h.sound h.nonneg hrev (fun _ => h.fit)
    (.command rfl) (h.streaming.mono (by simp))
  cases hd with
  | @next _ _ _ ws o xs qs hm hl hd =>
    have hgrows := hd.grows hwf (h.sound.afterAll hwf.child_mem hl) hm.no_command
    have hheard : ∀ k ∈ Store.firstInstances W.id count,
        Heard (r.afterAll w.now ws) k (Keyed.find? (cs ++ [(key, c)]) k) := fun k hk =>
      (h.heard k hk).reported hwf h.sound hm
    have hsilent : o.requests = [] := by cases hm <;> rfl
    refine ⟨⟨_, hosts_handOver (h.hosts.recordAll _), hso', hfit, ?_, ?_, fun k hk => ?_,
      hstreaming⟩, ?_⟩
    · exact lasts_nonneg.afterAll hwf h.sound (hl.append hd.lawful) h.nonneg
    · exact Lasts.afterAll hwf ⟨fun _ hx hi => find?_instances_after hx hi⟩ h.sound
        (hl.append hd.lawful) h.indexed
    · rw [Run.afterAll_append]
      exact (hheard k hk).grows hgrows
    · intro f hmem hk
      rw [hsilent] at hmem
      obtain ⟨q, hq, hkey⟩ := nodeKey_of_refused hmem
      exact (hgrows.asked q hq).1 (hkey ▸ (hheard f.1 hk).begun)

omit hwf hf in
lemma Gathering.forget (h : Gathering p S W C id count (cs ++ [(key, c)]) w r)
    (hk : key ∉ Store.firstInstances W.id count) : Gathering p S W C id count cs w r where
  hosts := h.hosts
  sound := h.sound
  fit := h.fit
  nonneg := h.nonneg
  indexed := h.indexed
  heard k hmem := by
    have hne : key ≠ k := fun he => hk (he ▸ hmem)
    have hnone : Keyed.find? [(key, c)] k = none := if_neg hne
    have hheard := h.heard k hmem
    rwa [Keyed.find?_append, hnone, Option.or_none] at hheard
  streaming := h.streaming

lemma Reaches.gathering (h : Reaches e id agenda w left w')
    (ha : ∀ queue ∈ agenda, ∃ key c, queue = [.callback key c] ∧
      key ∉ Store.firstInstances W.id count)
    (hg : ∃ r, Gathering p S W C id count cs w r) :
    ∃ r, Gathering p S W C id count cs w' r := by
  induction h with
  | refl => exact hg
  | step hs _ ih =>
    obtain ⟨⟨key, c, rfl, hk⟩, hrest⟩ := List.forall_mem_cons.mp ha
    obtain ⟨r, hg⟩ := hg
    obtain ⟨⟨r', hg'⟩, hfailures⟩ := hg.reported hwf hf hs
    refine ih (fun queue hmem => ?_) ⟨r', hg'.forget hk⟩
    rcases List.mem_append.mp hmem with hmem | hmem
    · exact hrest queue hmem
    · obtain ⟨f, hf, rfl⟩ := List.mem_map.mp hmem
      exact ⟨f.1, f.2, rfl, hfailures f hf⟩

lemma FanIn.gathering (h : FanIn p id W.id count cs w) :
    ∃ r, Gathering p S W C id count cs w r := by
  induction h with
  | @started e versionId v trigger entityId input r w w' hv hp hr hnew h hid hacc hfan =>
    subst hp hid
    obtain ⟨hid, hhosts, hso, hreach, hrow⟩ := startRun_ok hwf hv hr h
    rw [hid] at hhosts hreach
    refine hreach.gathering_of_primed hwf hf ⟨hso, Int.le_refl 0, fun _ => fit_newRun hwf,
      supplied_newRun hwf, spun_newRun, fun _ => spared_newRun⟩ hhosts (poised_entryNodes hwf _)
      (fun _ _ => ?_) hacc rfl rfl hrow hfan
    rw [startsIn_withCreated, Store.startsIn_eq_logOf, hnew]
    rfl
  | @called e c r₀ r r' w w' h hc hp hacc hr hwhole hr' hfan =>
    obtain ⟨q, ht, hpos, hprimed⟩ := h.carries hwf
      ((lasts_nonneg.endures hwf).and (endures_primed hwf))
      fun v trigger entityId now hv => by
        subst hv
        exact ⟨Int.le_refl 0, supplied_newRun hwf, spun_newRun, fun _ => spared_newRun⟩
    obtain rfl := Option.some.inj (hr.symm.trans ht.hosts.row)
    exact (advance_ok (perform_ok hp)).gathering_of_primed hwf hf
      ⟨ht.sound, hpos, ht.fit, hprimed⟩ ht.hosts (Call.poised hc) ht.unstarted hacc rfl hwhole hr'
      hfan
  | @reported e key c cs r w w' _ hc ih =>
    obtain ⟨q, hg⟩ := ih
    obtain ⟨hadv, _⟩ := command_ok hc
    cases advance_ok hadv with
    | step hs hreach =>
      obtain ⟨hnext, hfailures⟩ := hg.reported hwf hf hs
      refine hreach.gathering hwf hf (fun queue hmem => ?_) hnext
      obtain ⟨f, hf, rfl⟩ := List.mem_map.mp hmem
      exact ⟨f.1, f.2, rfl, hfailures f hf⟩
  | elsewhere _ hrow hv hlog hr ih =>
    obtain ⟨r, hg⟩ := ih
    refine ⟨r, ⟨hrow.trans hg.hosts.row, by rw [hv]; exact hg.hosts.version, hr⟩, hg.sound, hg.fit,
      hg.nonneg, hg.indexed, hg.heard, ?_⟩
    rw [Store.startsIn_eq_logOf, hlog, ← Store.startsIn_eq_logOf]
    exact hg.streaming

end Funnel

namespace Gathering

variable (hf : Funnel p S W C mode) (h : Gathering p S W C id count cs w r)
include hf h

lemma ready_iff : r.Ready p C.id ↔ ∀ k ∈ Store.firstInstances W.id count, r.Settled k := by
  have hi : r.hasInstances W.id = true := Run.hasInstances_iff.mpr ⟨_, h.indexed⟩
  unfold Run.Ready
  simp only [hf.collector.2.2, List.mem_singleton, forall_eq, Run.Done, if_pos hi,
    Run.instanceTexts_of_find? h.indexed]

lemma branchKeys_eq : branchKeys r (p.parents C.id) = Store.firstInstances W.id count := by
  have hi : r.hasInstances W.id = true := Run.hasInstances_iff.mpr ⟨_, h.indexed⟩
  simp only [branchKeys, hf.collector.2.2, List.flatMap_cons, List.flatMap_nil, List.append_nil,
    Run.keysOf, if_pos hi, Run.instanceTexts_of_find? h.indexed]

omit hf in
lemma outputs_eq : (Store.firstInstances W.id count).filterMap
    (fun k => (r.result? k).map fun x => (k, x)) = gathered W.id count cs := by
  refine List.filterMap_congr fun k hk => ?_
  rw [(h.heard k hk).result]
  cases Keyed.find? cs k with
  | none => rfl
  | some c => by_cases hc : c.result = .completed <;> simp [hc]

omit h hf in
lemma gathered_eq_nil_iff : gathered W.id count cs = [] ↔
    ∀ k ∈ Store.firstInstances W.id count, firstResult cs k ≠ some .completed := by
  rw [gathered, List.filterMap_eq_nil_iff]
  refine forall₂_congr fun k _ => ?_
  cases hx : Keyed.find? cs k with
  | none => simp [firstResult, hx]
  | some c => simp [firstResult, hx]

omit h hf in
lemma nodup_keys_gathered : (Keyed.keys (gathered W.id count cs)).Nodup := by
  rw [Keyed.keys, gathered, List.map_filterMap]
  refine List.Nodup.filterMap ?_ (List.nodup_range.map fun i j he => ?_)
  · intro k k' b hb hb'
    have hkey : ∀ {k}, b ∈ Option.map Prod.fst ((Keyed.find? cs k).bind fun c =>
        if c.result = .completed then some (k, c.output) else none) → b = k := by
      intro k hb
      obtain ⟨a, ha, rfl⟩ := Option.map_eq_some_iff.mp hb
      obtain ⟨c, _, he⟩ := Option.bind_eq_some_iff.mp ha
      split at he
      · rw [← Option.some.inj he]
      · cases he
    exact (hkey hb).symm.trans (hkey hb')
  · exact Int.ofNat.inj (InstanceKey.mk.inj (InstanceKey.text_injective he)).2

lemma collectValue_eq : collectValue p r C =
    if gathered W.id count cs = [] ∧ 0 < count then
      .error s!"All {count} upstream branch(es) failed"
    else .ok (joined mode (gathered W.id count cs)) := by
  have hlen : (Store.firstInstances W.id count).length = count := by simp [Store.firstInstances]
  have hcollect : collect mode (gathered W.id count cs) = joined mode (gathered W.id count cs) := by
    cases mode with
    | array | first => rfl
    | keyed => exact congrArg Json.obj (Keyed.ofPairs_of_nodup nodup_keys_gathered)
  simp only [collectValue, hf.mode, branchesOf_eq, branchOutputs_eq, h.branchKeys_eq hf,
    h.outputs_eq, List.length_map, List.isEmpty_map, hcollect, hlen]
  refine if_congr ?_ rfl rfl
  rw [Bool.and_eq_true, List.isEmpty_iff, Bool.not_eq_true', ← Bool.not_eq_true,
    List.isEmpty_iff_length_eq_zero, hlen, Nat.pos_iff_ne_zero]

end Gathering

/-- After a step that fanned the worker out over any list, and any reports since then: the collector
is pending and unclaimed while there is an instance without a report. Once all of them have one, the
collector was claimed once. It is failed if all first reports tell of failures, and otherwise it is
completed with the outputs of the completed instances, joined in the order of their indices. -/
theorem collector_joins_first_reports {canvas : Canvas} {catalogue : Catalogue}
    (hc : canvas.compile catalogue = .ok p) (hf : Funnel p S W C mode)
    (h : FanIn p id W.id count cs w) :
    ∃ r, w.store.run? id = some r ∧
      ((∃ k ∈ Store.firstInstances W.id count, firstResult cs k = none) →
        r.Has C.id .pending ∧ startsIn id C.id w.store.events = 0) ∧
      ((∀ k ∈ Store.firstInstances W.id count, firstResult cs k ≠ none) →
        startsIn id C.id w.store.events = 1 ∧
        (0 < count → (∀ k ∈ Store.firstInstances W.id count, firstResult cs k = some .failed) →
          r.Has C.id .failed) ∧
        ((count = 0 ∨ ∃ k ∈ Store.firstInstances W.id count, firstResult cs k = some .completed) →
          r.result? C.id = some (joined mode (gathered W.id count cs)))) := by
  have hwf := Canvas.compile_wellFormed hc
  obtain ⟨r, hg⟩ := h.gathering hwf hf
  have hi : r.hasInstances W.id = true := Run.hasInstances_iff.mpr ⟨_, hg.indexed⟩
  obtain ⟨_, hclosed⟩ := hg.streaming.ends hwf hf hg.sound hg.fit hi
  refine ⟨r, hg.hosts.row, ?_, fun hall => ?_⟩
  · rintro ⟨k, hk, hnone⟩
    have hheard := hg.heard k hk
    rw [Option.map_eq_none_iff.mp hnone] at hheard
    cases hheard with
    | silent hrun =>
      cases hg.streaming.tally with
      | waiting hp hzero => exact ⟨hp, hzero⟩
      | joined hr => exact absurd ((hg.ready_iff hf).mp hr k hk) (hrun.not_settled rfl)
  · have hready : r.Ready p C.id := by
      refine (hg.ready_iff hf).mpr fun k hk => ?_
      cases hx : Keyed.find? cs k with
      | none => exact absurd (by simp [firstResult, hx]) (hall k hk)
      | some c => exact (hx ▸ hg.heard k hk).settled
    cases hg.streaming.tally with
    | waiting hp => exact absurd hp (hclosed hready)
    | joined _ hj hone =>
      rw [Joined, hg.collectValue_eq hf] at hj
      refine ⟨hone, fun hpos hfailed => ?_, fun hsome => ?_⟩
      · have hnil : gathered W.id count cs = [] := by
          refine Gathering.gathered_eq_nil_iff.mpr fun k hk he => ?_
          rw [hfailed k hk] at he
          cases he
        rwa [if_pos ⟨hnil, hpos⟩] at hj
      · have hne : ¬ (gathered W.id count cs = [] ∧ 0 < count) := by
          rintro ⟨hnil, hpos⟩
          rcases hsome with rfl | ⟨k, hk, he⟩
          · exact absurd hpos (by simp)
          · exact Gathering.gathered_eq_nil_iff.mp hnil k hk he
        rwa [if_neg hne] at hj

def shuffledReports : Keyed Callback :=
  [("each_1", ⟨.completed, .str "c", none⟩), ("each_0", ⟨.completed, .str "b", none⟩),
    ("each_1", .failure "late")]

theorem first_of_two_reports_joined : ∃ (id : String) (w : World) (r : Run),
    FanIn (.ofCanvas splitterBehindWorker []) id "each" 2 shuffledReports w ∧
      w.store.run? id = some r ∧ startsIn id "join" w.store.events = 1 ∧
      r.result? "join" = some (.arr [.str "b", .str "c"]) := by
  -- The instances report in reverse, and the second report on one of them comes late.
  have hc := Canvas.compile_of_checks (c := splitterBehindWorker) (by decide +kernel)
    (by decide +kernel) (by decide +kernel)
  let p : Plan := .ofCanvas splitterBehindWorker []
  obtain ⟨S, _, W, _, C, _, hf, hW, hC⟩ := exists_of_any (x := p.node? "split")
    (P := fun S => ∃ W ∈ p.node? "each", ∃ C ∈ p.node? "join",
      Funnel p S W C .array ∧ W.id = "each" ∧ C.id = "join") (by decide +kernel)
  obtain ⟨⟨id, w₀⟩, hstart, r₀, hr₀, hwhole, w₁, hcalled, hacc, r₁, hr₁, hfan, w, hplay, _⟩ :=
    exists_of_any
    (x := accepting.startFor 20 "version" .byHand none none (.ofCanvas splitterBehindWorker))
    (P := fun x => ∃ r₀ ∈ x.2.store.run? x.1, r₀.hasInstances "each" = false ∧
      ∃ w₁ ∈ accepting.returnFor 20 x.1 (.callback "source" twoItems) x.2, x.2.AcceptedSince w₁ ∧
      ∃ r₁ ∈ w₁.store.run? x.1, Keyed.find? r₁.instances "each" = some (indices 2) ∧
      ∃ w ∈ accepting.playFor 20 x.1 (shuffledReports.map fun d => .callback d.1 d.2) w₁,
        w.rival = none)
    (by decide +kernel)
  obtain ⟨_, hcourse⟩ := Course.of_startFor rfl rfl rfl rfl hstart
  have hfanned : FanIn p id W.id 2 [] w₁ :=
    have hperform := performFor_sound (returnFor_eq hcalled)
    hW ▸ .called hcourse (by simp) hperform hacc hr₀ hwhole hr₁ hfan
  have hreported : FanIn p id W.id 2 shuffledReports w := hfanned.of_playFor hplay
  obtain ⟨r, hr, _, hjoined⟩ := collector_joins_first_reports hc hf hreported
  rw [hW, hC] at hjoined
  obtain ⟨hone, _, hresult⟩ := hjoined (by decide +kernel)
  exact ⟨id, w, r, hW ▸ hreported, hr, hone, hresult (by decide +kernel)⟩

end Workflow.Engine
