import Workflow.Proofs.Engine.Awaited
import Workflow.Proofs.Plan.Order

/-! When reconciling a run changes nothing: it fires the open nodes that are ready, and there are
none but those behind sources that were fanned out over nothing and are not walked yet. -/

namespace Workflow.Engine

open Run (Lawful)
open Store (holdsRevision)

variable {e : Engine} {p : Plan} {now : Instant} {r : Run} {id n : String} {w w' : World}
  {ws : List Write} {x : Write}

lemma revision_update {key : String} {u : NodeUpdate} {s : NodeState} (hs : r.state? key = some s) :
    (r.update now key u).revision = r.revision + 1 := by
  rw [Run.update_eq hs, Run.revision_moved]

lemma revision_after (h : r.Allowed p x) :
    r.after now x = r ∨ (r.after now x).revision = r.revision + 1 := by
  cases h with
  | claim hs => exact .inr (revision_update hs)
  | park _ hs | complete _ hs | fail _ hs => exact .inr (revision_update hs)
  | spawn _ hs => exact .inr (revision_update (Run.state?_fanned_of_some _ _ hs))
  | note => exact .inl rfl

lemma revision_le (h : Lawful p now r ws) :
    r.afterAll now ws = r ∨ r.revision < (r.afterAll now ws).revision := by
  induction h with
  | nil => exact .inl rfl
  | cons hx _ ih =>
    rw [Run.afterAll_cons]
    rcases revision_after hx with heq | hlt
    · rw [heq] at ih ⊢
      exact ih
    · rcases ih with heq | hlt'
      · rw [heq]
        exact .inr (by omega)
      · exact .inr (by omega)

inductive Stalled (p : Plan) (r : Run) : String → Prop where
  | unready {s} (hh : r.Hollow s) (hr : ¬ r.Ready p s) : Stalled p r s
  | behind {s t} (hh : r.Hollow s) (hs : t ∈ p.parents s) (h : Stalled p r t) : Stalled p r s

lemma Awaited.stalled (h : Awaited p r [] n) : ∃ s ∈ p.parents n, Stalled p r s := by
  induction h with
  | fire h => cases h
  | walk h => cases h
  | blocked hs hh hr => exact ⟨_, hs, .unready hh hr⟩
  | behind hs hh _ ih =>
    obtain ⟨t, ht, hstalled⟩ := ih
    exact ⟨_, hs, .behind hh ht hstalled⟩

/-- An open node is overlooked if all its sources are done, one of them by being stalled. -/
def Overlooked (p : Plan) (r : Run) (n : String) : Prop :=
  r.Open n ∧ r.Ready p n ∧ ∃ s ∈ p.parents n, Stalled p r s

lemma drainWithin_nil {settings : Settings} (budget : Effort) (waiting : Nat)
    (requests : List Request) (w : World) :
    drainWithin settings id budget waiting [] requests w = .ok requests w := by rw [drainWithin]

lemma revision_lt_of_fire {rest : List Message} {qs : List Request} (hwf : p.WellFormed)
    (hso : r.Sound p) (hd : Drained p now r (.fire n :: rest) ws qs) (hn : n ∈ p.nodeIds)
    (ho : r.Open n) : r.revision < (r.afterAll now ws).revision := by
  cases hd with
  | @next _ _ _ ws₁ o xs _ hm hl hd =>
    rw [Run.afterAll_append]
    have hclosed := (hm.closes hwf hso hn).1
    have hlt : r.revision < (r.afterAll now ws₁).revision := by
      rcases revision_le hl with heq | hlt
      · rw [heq] at hclosed
        exact absurd ho hclosed
      · exact hlt
    rcases revision_le hd.lawful with heq | hlt'
    · rwa [heq]
    · exact hlt.trans hlt'

section Hosted

variable (hwf : p.WellFormed) (h : w.Hosts id p r) (hso : r.Sound p)
  (hrev : holdsRevision r.revision = true)
include hwf h hso hrev

lemma drain_reconcile (hnone : ∀ n ∈ p.nodeIds, ¬ (r.Open n ∧ r.Ready p n)) {settings : Settings} :
    drain settings id [.reconcile] w = .ok [] w := by
  obtain ⟨v, hv, rfl⟩ := h.version
  obtain ⟨levels, hl, hmem⟩ := Plan.levels_complete hwf
  obtain ⟨l, hf, hiff⟩ := frontier_ok hso levels.flatten
  -- The frontier is empty, and so the only message writes nothing.
  have hnil : l = [] := by
    rw [List.eq_nil_iff_forall_not_mem]
    intro n hn
    obtain ⟨hn, ho, hr⟩ := (hiff n).mp hn
    exact hnone n ((hmem n).mp hn) ⟨ho, hr⟩
  subst hnil
  have hrun : World.run id w = .ok r w := by rw [World.run_eq h, if_pos hrev]
  have hver : World.version r.versionId w = .ok v w := by
    simp [World.version, World.version?, Action.bind_apply, Action.map_apply, hv]
  have hstep : step settings id .reconcile w = .ok .nothing w := by
    rw [step, Action.bind_of_ok hrun, Action.bind_of_ok hver]
    simp only [handle, reconcile, hl]
    exact (Action.bind_of_ok (Action.lift_ok hf)).trans rfl
  have hwithin : ∀ waiting,
      drainWithin settings id (effort w id [.reconcile]) waiting [.reconcile] [] w = .ok [] w := by
    intro waiting
    rw [drainWithin, hstep]
    have hless : (effort w id []).Less (effort w id [.reconcile]) := by
      exact .inl (by simp [effort, Message.isCommand])
    exact (dif_pos hless).trans (drainWithin_nil _ _ _ _)
  obtain ⟨b, hfin, _⟩ := hso.isFinished_ok
  have hrow : World.run? id w = .ok (some r) w := by
    simp only [World.run?, Action.bind_apply, Action.get_apply, Store.readRun_eq h.row, if_pos hrev]
    rfl
  rw [drain, Action.bind_of_ok Action.get_apply, Action.bind_of_ok (hwithin _),
    Action.bind_of_ok hrow]
  exact (Action.bind_of_ok (Action.lift_ok (by rw [hfin]; rfl))).trans rfl

lemma reconcileRun_eq (hnone : ∀ n ∈ p.nodeIds, ¬ (r.Open n ∧ r.Ready p n)) :
    e.reconcileRun id w = .ok r w := by
  have hrun : World.run id w = .ok r w := by rw [World.run_eq h, if_pos hrev]
  have hstep : e.stepAndDeliver id [.reconcile] w = .ok [] w := by
    rw [stepAndDeliver, Action.bind_of_ok (drain_reconcile hwf h hso hrev hnone)]
    rfl
  have hadv : e.advance id [.reconcile] w = .ok () w := by
    rw [advance, Action.bind_of_ok hstep, Action.bind_of_ok Action.get_apply, settleWithin]
  exact (Action.bind_of_ok hadv).trans hrun

lemma reconcileRun_ne (hn : n ∈ p.nodeIds) (ho : r.Open n) (hr : r.Ready p n) :
    e.reconcileRun id w ≠ .ok r w := by
  intro heq
  obtain ⟨hadv, _⟩ := command_ok heq
  cases advance_ok hadv with
  | @step _ _ _ failures w₁ _ _ hs hrest =>
    obtain ⟨ws, qs, hd, _, rfl, _⟩ := stepAndDeliver_ok hwf h hso hs
    -- The first node of the frontier is fired, and no later call takes the revision back.
    have hlt : r.revision < (r.afterAll w.now ws).revision := by
      cases hd with
      | next hm _ hd =>
        cases hm with
        | @reconciled levels l hlev hf =>
          obtain ⟨levels', hl', hmem⟩ := Plan.levels_complete hwf
          obtain rfl := Option.some.inj (hlev.symm.trans hl')
          have hnl := (hf n).mpr ⟨(hmem n).mpr hn, ho, hr⟩
          cases l with
          | nil => cases hnl
          | cons m rest =>
            obtain ⟨hm, hom, _⟩ := (hf m).mp (by simp)
            exact revision_lt_of_fire hwf hso hd ((hmem m).mp hm) hom
    have hgrows : ∀ {q : Run} {now : Instant} {c : Call} {ws : List Write} {qs : List Request},
        r.revision < q.revision → q.Sound p → True → Drained p now q [c.message] ws qs →
        Store.holdsRevision (q.afterAll now ws).revision = true →
        r.revision < (q.afterAll now ws).revision := by
      intro q now c ws qs hlt _ _ hd _
      rcases revision_le hd.lawful with heq | hlt'
      · rwa [heq]
      · exact hlt.trans hlt'
    have hcalls : ∀ queue ∈ failures.map fun f => [Message.callback f.1 f.2],
        ∃ c : Call, True ∧ queue = [c.message] := by
      intro queue hq
      obtain ⟨f, _, rfl⟩ := List.mem_map.mp hq
      exact ⟨.callback f.1 f.2, trivial, rfl⟩
    obtain ⟨q, hq, _, hlt⟩ := hrest.invariant hwf (fun _ _ => trivial) hgrows hcalls
      ⟨_, hosts_handOver (h.recordAll ws), hso.afterAll hwf.child_mem hd.lawful, hlt⟩
    obtain rfl := Option.some.inj (hq.row.symm.trans h.row)
    exact absurd hlt (lt_irrefl _)

end Hosted

/-- Reconciling a run between calls changes nothing if, and only if, no node is overlooked. -/
theorem reconcile_changes_nothing_iff {c : Canvas} {catalogue : Catalogue}
    (hc : c.compile catalogue = .ok p)
    (h : Life p (fun c => c.isOrdinary = true) id w) :
    ∃ r, w.store.run? id = some r ∧
      (e.reconcileRun id w = .ok r w ↔ ∀ n ∈ p.nodeIds, ¬ Overlooked p r n) := by
  have hwf := Canvas.compile_wellFormed hc
  obtain ⟨r, hhosts, hso, hrev, hj⟩ := h.attended hwf fun _ _ => rfl
  refine ⟨r, hhosts.row, fun heq n hn hover => ?_, fun hnone => ?_⟩
  · exact reconcileRun_ne hwf hhosts hso hrev hn hover.1 hover.2.1 heq
  · refine reconcileRun_eq hwf hhosts hso hrev fun n hn hready => ?_
    exact hnone n hn ⟨hready.1, hready.2, (hj n hn hready.1 hready.2).stalled⟩

theorem reconcile_after_answers : ∃ (id : String) (w : World) (r : Run),
    Life (.ofCanvas formsBehindSplitter []) (fun c => c.isOrdinary = true) id w ∧
      w.store.run? id = some r ∧ r.Has "join" .completed ∧
      accepting.reconcileRun id w = .ok r w := by
  -- A form between a splitter and a collector is answered, and the run is done.
  have hc := Canvas.compile_of_checks (c := formsBehindSplitter) (by decide +kernel)
    (by decide +kernel) (by decide +kernel)
  obtain ⟨⟨id, w₀⟩, hstart, w, hplay, r, hr, hjoin, hclosed⟩ := exists_of_any
    (x := accepting.startFor 20 "version" .byHand none (some [("items", .arr [.str "a"])])
      (.ofCanvas formsBehindSplitter))
    (P := fun x => ∃ w ∈ accepting.playFor 20 x.1 [.submit "form_0" (.str "b")] x.2,
      ∃ r ∈ w.store.run? x.1, r.Has "join" .completed ∧
        ∀ n ∈ (Plan.ofCanvas formsBehindSplitter []).nodeIds, ¬ r.Open n) (by decide +kernel)
  have hl : Life (.ofCanvas formsBehindSplitter []) (fun c => c.isOrdinary = true) id w :=
    (Life.of_startFor rfl rfl rfl hstart).of_playFor (by simp [Call.isOrdinary]) hplay
  obtain ⟨q, hq, h⟩ := reconcile_changes_nothing_iff (e := accepting) hc hl
  obtain rfl := Option.some.inj (hq.symm.trans hr)
  exact ⟨id, w, q, hl, hq, hjoin, h.mpr fun n hn hover => hclosed n hn hover.1⟩

def workersBehindSplitter : Canvas where
  nodes? := some [.bare "split" .splitter [("array_path", .str "items")],
    .bare "slow" .worker [("webhook_url", .str "http://worker")],
    .bare "each" .worker [("webhook_url", .str "http://worker")], .bare "join" .collector []]
  edges? := some [.bare "split" "each" [], .bare "slow" "each" [], .bare "each" "join" []]

theorem reconcile_fires_overlooked : ∃ (id : String) (w : World) (r : Run),
    workersBehindSplitter.compile [] = .ok (.ofCanvas workersBehindSplitter []) ∧
      Life (.ofCanvas workersBehindSplitter []) (fun c => c.isOrdinary = true) id w ∧
      w.store.run? id = some r ∧ accepting.reconcileRun id w ≠ .ok r w := by
  -- Nothing is fanned out, and so the collector is overlooked until the slow worker is done.
  have hc := Canvas.compile_of_checks (c := workersBehindSplitter) (by decide +kernel)
    (by decide +kernel) (by decide +kernel)
  obtain ⟨⟨id, w⟩, hstart, r, hr, hn, hopen, hready⟩ := exists_of_any
    (x := accepting.startFor 20 "version" .byHand none (some [("items", .arr [])])
      (.ofCanvas workersBehindSplitter))
    (P := fun x => ∃ r ∈ x.2.store.run? x.1,
      "join" ∈ (Plan.ofCanvas workersBehindSplitter []).nodeIds ∧ r.Open "join" ∧
        r.Ready (.ofCanvas workersBehindSplitter []) "join") (by decide +kernel)
  have hl : Life (.ofCanvas workersBehindSplitter []) (fun c => c.isOrdinary = true) id w :=
    .of_startFor rfl rfl rfl hstart
  have hwf := Canvas.compile_wellFormed hc
  obtain ⟨q, hhosts, hso, hrev, _⟩ := hl.attended hwf fun _ _ => rfl
  obtain rfl := Option.some.inj (hhosts.row.symm.trans hr)
  exact ⟨id, w, q, hc, hl, hhosts.row, reconcileRun_ne hwf hhosts hso hrev hn hopen hready⟩

end Workflow.Engine
