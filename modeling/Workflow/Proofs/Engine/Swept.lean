import Workflow.Proofs.Engine.Finished
import Workflow.Proofs.Engine.Recovered
import Workflow.Proofs.Engine.Unambiguous

/-! Sweeps of the watchdog: they fail what is overdue, and leave alone what still has time. -/

namespace Workflow

lemma Instant.micros_earlier {now cutoff : Instant} {timeout : Floating}
    (h : now.earlier timeout = .ok cutoff) : ∃ seconds, timeout = .finite seconds ∧
      cutoff.micros = now.micros - durationMicros seconds := by
  cases timeout with
  | finite seconds =>
    refine ⟨seconds, rfl, ?_⟩
    rw [earlier] at h
    unfold earlierBy at h
    dsimp only at h
    split at h
    · cases h
    · split at h
      · rw [← Except.ok.inj h, plus, Int.sub_eq_add_neg]
      · cases h
  | _ => cases h

namespace Run

def Overdue (r : Run) (cutoff : Instant) (key : String) : Prop :=
  ∃ s, r.state? key = some s ∧ s.status = .running ∧
    ∃ t, s.startedAt = some t ∧ t.micros ≤ cutoff.micros

def Retains (r r' : Run) : Prop :=
  ∀ k s, r.state? k = some s → s.status ≠ .pending → r'.state? k = some s

variable {p : Plan} {now cutoff : Instant} {r r' r'' : Run} {key k : String} {s : NodeState}
  {u : NodeUpdate}

lemma overdue_iff (h : r.state? key = some s) :
    r.Overdue cutoff key ↔ Watchdog.isStale cutoff s = true := by
  simp [Overdue, h, Watchdog.isStale, Option.any_eq_true]

instance : Decidable (r.Overdue cutoff key) :=
  decidable_of_iff ((r.state? key).any (Watchdog.isStale cutoff) = true) (by
    cases h : r.state? key with
    | none => simp [Overdue, h]
    | some s => exact (overdue_iff h).symm)

lemma Overdue.has_running (h : r.Overdue cutoff key) : r.Has key .running := by
  obtain ⟨s, hs, hrun, _⟩ := h
  exact ⟨s, hs, hrun⟩

namespace Retains

protected lemma refl : r.Retains r := fun _ _ hs _ => hs

protected lemma trans (h : r.Retains r') (h' : r'.Retains r'') : r.Retains r'' :=
  fun k s hs hp => h' k s (h k s hs hp) hp

end Retains

def overdueAmong (r : Run) (cutoff : Instant) (keys : List String) : List (String × String) :=
  (keys.filter fun k => r.Overdue cutoff k).map fun k => (r.id, k)

lemma mem_overdueAmong {id : String} {keys : List String} :
    (id, k) ∈ r.overdueAmong cutoff keys ↔ r.id = id ∧ k ∈ keys ∧ r.Overdue cutoff k := by
  simp only [overdueAmong, List.mem_map, List.mem_filter, decide_eq_true_eq, Prod.mk.injEq]
  constructor
  · rintro ⟨_, ⟨hk, hoverdue⟩, rfl, rfl⟩
    exact ⟨rfl, hk, hoverdue⟩
  · rintro ⟨rfl, hk, hoverdue⟩
    exact ⟨k, ⟨hk, hoverdue⟩, rfl, rfl⟩

end Run

namespace Engine

open Run (Retains)
open Store (holdsRevision)
open World (Sane)

variable {p : Plan} {now : Instant} {r r' : Run} {n : PlanNode} {key k id : String} {x : Json}
  {ws : List Write} {o : Outcome} {qs : List Request} {queue : List Message} {m : Message}
  {e : Engine} {w w' w₁ : World} {s : NodeState}

/-! What is begun keeps its state, whatever is started behind it. -/

lemma Worked.state?_other (h : Worked p r n key x ws o) (hk : k ≠ key) (hs : r.state? k = some s) :
    (r.afterAll now ws).state? k = some s := by
  cases h with
  | sent => exact hs
  | parked | unsplit | whole | rejected | uncollected | collected =>
    exact (Run.state?_update_of_ne hk).trans hs
  | split =>
    exact (Run.state?_update_of_ne hk).trans (Run.state?_fanned_of_some _ _ hs)

lemma Started.retains (h : Started p now r n key x .pending ws o) :
    r.Retains (r.afterAll now ws) := by
  cases h with
  | skipped => exact .refl
  | worked hpend hw =>
    intro k s hs hp
    have hk : k ≠ key := by
      rintro rfl
      exact hp (hpend.unique ⟨s, hs, rfl⟩).symm
    exact hw.state?_other hk ((Run.state?_update_of_ne hk).trans hs)

lemma FiredAll.retains {snap : Run} {mapping : Mapping} {l : List String}
    (h : FiredAll p now snap n mapping r l ws o) : r.Retains (r.afterAll now ws) := by
  induction h with
  | nil => exact .refl
  | passed _ _ ih => exact ih
  | fired _ _ _ hw _ ih =>
    rw [Run.afterAll_append]
    exact hw.retains.trans ih

lemma Handled.retains (h : Handled p now r m ws o) (hm : m.isCommand = false) :
    r.Retains (r.afterAll now ws) := by
  cases h with
  | walked | strayed | missing | hollow => exact .refl
  | instances _ _ _ _ hf => exact hf.retains
  | whole _ _ _ hs => exact hs.retains
  | ignored | reported | resumed | retried | reconciled => cases hm

lemma Drained.retains (h : Drained p now r queue ws qs) (hq : ∀ a ∈ queue, a.isCommand = false) :
    r.Retains (r.afterAll now ws) := by
  induction h with
  | done => exact .refl
  | next hm _ _ ih =>
    obtain ⟨hfirst, hrest⟩ := List.forall_mem_cons.mp hq
    rw [Run.afterAll_append]
    exact (hm.retains hfirst).trans (ih (List.forall_mem_append.mpr ⟨hrest, hm.no_command⟩))

lemma reported_failure {text : String} (ht : text ≠ "") : reported (.failure text) = .fail text := by
  have herror : (Callback.failure text).errorText = text := by
    unfold Callback.errorText Callback.failure
    split
    · rename_i h
      cases h
    · rename_i h
      exact absurd (Option.some.inj h) ht
    · rename_i h
      exact (Option.some.inj h).symm
  rw [reported, herror]
  rfl

lemma Drained.fails {text : String} (h : Drained p now r [.callback key (.failure text)] ws qs)
    (hk : r.Has key .running) (ht : text ≠ "") :
    (∃ s, (r.afterAll now ws).state? key = some s ∧ s.status = .failed ∧ s.error = some text) ∧
      ∀ k s, k ≠ key → r.state? k = some s → s.status ≠ .pending →
        (r.afterAll now ws).state? k = some s := by
  cases h with
  | next hm _ hd =>
    cases hm with
    | ignored hno => exact absurd hk hno
    | @reported _ _ notes _ hnotes =>
      have hafter : r.afterAll now (.move key (reported (.failure text)) :: notes) =
          r.update now key (.fail text) := by
        rw [reported_failure ht]
        exact Run.afterAll_cons.trans (afterAll_notes hnotes)
      rw [hafter] at hd
      rw [Run.afterAll_append, hafter]
      have hkept := hd.retains (by simp [Outcome.walk, Message.isCommand])
      obtain ⟨s, hs, _⟩ := hk
      have hfailed : (r.update now key (.fail text)).state? key =
          some ((NodeUpdate.fail text).apply now s) := (Run.state?_update hs).trans (if_pos rfl)
      refine ⟨⟨_, hkept _ _ hfailed (by simp [NodeUpdate.fail, NodeUpdate.apply,
        NodeUpdate.status]), rfl, rfl⟩, fun k s hne hs hp => ?_⟩
      exact hkept k s ((Run.state?_update_of_ne hne).trans hs) hp

/-! Rows have distinct ids. -/

lemma ids_step (hw : w.Sane)
    (hs : (∃ failures, e.stepAndDeliver id queue w = .ok failures w') ∨
      ∃ f, e.stepAndDeliver id queue w = .error f w') :
    w'.Sane ∧ w'.store.runIds = w.store.runIds := by
  cases hr : w.store.run? id with
  | none =>
    obtain rfl := stepAndDeliver_missing hr hs
    exact ⟨hw, rfl⟩
  | some r =>
    obtain ⟨v, hwf, hh, hso, hforms⟩ := hw.hosts hr
    obtain ⟨ws, qs, hadv, rfl, _⟩ := stepAndDeliver_advances hwf hh hso hs
    exact ⟨sane_handOver (hw.recordAll hwf hh hso hforms hadv.lawful), World.runIds_recordAll⟩

lemma Operation.nodup_ids (op : Operation) (hw : w.Sane)
    (hd : w.store.runIds.Nodup) : (op.after e w).store.runIds.Nodup := by
  have hopened : ∀ {other queue w₀}, op.opening w = some (other, queue, w₀) → w₀.Sane →
      w₀.store.runIds.Nodup → (op.after e w).store.runIds.Nodup := by
    intro other queue w₀ ho hw₀ hd₀
    refine (Operation.keeps_of (P := fun w' => w'.Sane ∧ w'.store.runIds.Nodup)
      (Q := fun _ => True) (fun _ _ => trivial) ?_ ho trivial ⟨hw₀, hd₀⟩).2
    rintro queue mid mid' ⟨hmid, hd⟩ - hs
    obtain ⟨hmid', hids⟩ := ids_step hmid hs
    exact ⟨hmid', hids ▸ hd⟩
  cases op with
  | start versionId trigger entityId input =>
    cases hv : w.store.version? versionId with
    | none =>
      rw [Operation.after_eq (.inr ⟨_, Action.bind_of_error (startRun_missing hv)⟩)]
      exact hd
    | some v =>
      rcases startRun_cases e trigger entityId input hv with ⟨f, _, hf⟩ | ⟨s, hc, hnone, _⟩
      · rw [Operation.after_eq (.inr ⟨f, Action.bind_of_error hf⟩)]
        exact hd
      · refine hopened (Operation.opening_start hv hc) (sane_withCreated hw hv hnone) ?_
        have hids : (withCreated w (created w v trigger entityId input)).store.runIds =
            w.store.runIds ++ [(created w v trigger entityId input).id] := List.map_append
        rw [hids]
        refine hd.append (List.nodup_singleton _) ?_
        rw [List.disjoint_singleton]
        intro hmem
        obtain ⟨q, hq, hid⟩ := List.mem_map.mp hmem
        exact absurd hid (by simpa using List.find?_eq_none.mp hnone q hq)
  | call other c => exact hopened rfl hw hd
  | wait now => exact hd

lemma nodup_ids_afterOperations (hw : w.Sane) (hd : w.store.runIds.Nodup)
    (ops : List (Engine × Operation)) :
    (afterOperations w ops).store.runIds.Nodup := by
  induction ops generalizing w with
  | nil => exact hd
  | cons op rest ih => exact ih (op.2.after_cases (e := op.1) hw).1 (op.2.nodup_ids hw hd)

inductive Reported (e : Engine) (text : String) :
    List (String × String) → World → World → Prop where
  | nil {w : World} : Reported e text [] w w
  | cons {id key : String} {r : Run} {rest : List (String × String)} {w w₁ w' : World}
      (hc : e.handleCallback id key (.failure text) w = .ok r w₁)
      (h : Reported e text rest w₁ w') : Reported e text ((id, key) :: rest) w w'

variable {text : String} {timeout : Floating} {cutoff : Instant} {keys : List String}
  {rows : List Run} {swept later : List (String × String)}

lemma Reported.append_iff : Reported e text (swept ++ later) w w' ↔
    ∃ w₁, Reported e text swept w w₁ ∧ Reported e text later w₁ w' := by
  constructor
  · intro h
    induction swept generalizing w with
    | nil => exact ⟨w, .nil, h⟩
    | cons a rest ih =>
      cases h with
      | cons hc h =>
        obtain ⟨w₁, hfirst, hlater⟩ := ih h
        exact ⟨w₁, .cons hc hfirst, hlater⟩
  · rintro ⟨w₁, hfirst, hlater⟩
    induction hfirst with
    | nil => exact hlater
    | cons hc _ ih => exact .cons hc (ih hlater)

lemma sweepKeys_eq_ok_iff (hkeys : ∀ k ∈ keys, ∃ s, r.state? k = some s) :
    Watchdog.sweepKeys e timeout cutoff r keys w = .ok swept w' ↔
      swept = r.overdueAmong cutoff keys ∧
        Reported e (Watchdog.timeoutText timeout) swept w w' := by
  induction keys generalizing w swept with
  | nil =>
    constructor
    · intro h
      obtain ⟨rfl, rfl⟩ := EStateM.Result.ok.inj h
      exact ⟨rfl, .nil⟩
    · rintro ⟨rfl, h⟩
      cases h
      rfl
  | cons key rest ih =>
    obtain ⟨⟨s, hs⟩, hrest⟩ := List.forall_mem_cons.mp hkeys
    have hat : Failure.ofMissing (r.stateAt key) = .ok s := by
      rw [Run.stateAt_of_state? hs]
      rfl
    rw [Watchdog.sweepKeys, Action.bind_of_ok (Action.lift_ok hat)]
    by_cases hstale : r.Overdue cutoff key
    · have hpairs : r.overdueAmong cutoff (key :: rest) =
          (r.id, key) :: r.overdueAmong cutoff rest := by
        simp [Run.overdueAmong, hstale]
      rw [if_pos ((Run.overdue_iff hs).mp hstale), hpairs, Action.bind_eq_ok]
      constructor
      · rintro ⟨a, w₁, hc, h⟩
        obtain ⟨l, w₂, hl, hret⟩ := Action.bind_eq_ok.mp h
        obtain ⟨rfl, rfl⟩ := EStateM.Result.ok.inj hret
        obtain ⟨rfl, hreported⟩ := (ih hrest).mp hl
        exact ⟨rfl, .cons hc hreported⟩
      · rintro ⟨rfl, h⟩
        cases h with
        | cons hc h =>
          refine ⟨_, _, hc, ?_⟩
          rw [Action.bind_of_ok ((ih hrest).mpr ⟨rfl, h⟩)]
          rfl
    · have hpairs : r.overdueAmong cutoff (key :: rest) = r.overdueAmong cutoff rest := by
        simp [Run.overdueAmong, hstale]
      rw [if_neg fun h => hstale ((Run.overdue_iff hs).mpr h), hpairs]
      exact ih hrest

lemma sweepRuns_eq_ok_iff (hrows : ∀ r ∈ rows, ∀ k ∈ r.effectiveKeys, ∃ s, r.state? k = some s) :
    Watchdog.sweepRuns e timeout cutoff rows w = .ok swept w' ↔
      swept = rows.flatMap (fun r => r.overdueAmong cutoff r.effectiveKeys) ∧
        Reported e (Watchdog.timeoutText timeout) swept w w' := by
  induction rows generalizing w swept with
  | nil =>
    constructor
    · intro h
      obtain ⟨rfl, rfl⟩ := EStateM.Result.ok.inj h
      exact ⟨rfl, .nil⟩
    · rintro ⟨rfl, h⟩
      cases h
      rfl
  | cons r rest ih =>
    obtain ⟨hkeys, hrest⟩ := List.forall_mem_cons.mp hrows
    rw [Watchdog.sweepRuns, Action.bind_eq_ok, List.flatMap_cons]
    constructor
    · rintro ⟨here, w₁, hhere, h⟩
      obtain ⟨l, w₂, hl, hret⟩ := Action.bind_eq_ok.mp h
      obtain ⟨rfl, rfl⟩ := EStateM.Result.ok.inj hret
      obtain ⟨rfl, hfirst⟩ := (sweepKeys_eq_ok_iff hkeys).mp hhere
      obtain ⟨rfl, hlater⟩ := (ih hrest).mp hl
      exact ⟨rfl, Reported.append_iff.mpr ⟨w₁, hfirst, hlater⟩⟩
    · rintro ⟨rfl, h⟩
      obtain ⟨w₁, hfirst, hlater⟩ := Reported.append_iff.mp h
      refine ⟨_, w₁, (sweepKeys_eq_ok_iff hkeys).mpr ⟨rfl, hfirst⟩, ?_⟩
      rw [Action.bind_of_ok ((ih hrest).mpr ⟨rfl, hlater⟩)]
      rfl

lemma sweep_eq_ok_iff
    (hstates : ∀ r ∈ w.store.runs, ∀ k ∈ r.effectiveKeys, ∃ s, r.state? k = some s) :
    Watchdog.sweep e timeout now w = .ok swept w' ↔
      ∃ cutoff rows, now.earlier timeout = .ok cutoff ∧ w.store.listRuns none = .ok rows ∧
        swept = rows.flatMap (fun r => r.overdueAmong cutoff r.effectiveKeys) ∧
        Reported e (Watchdog.timeoutText timeout) swept w w' := by
  unfold Watchdog.sweep
  cases hcutoff : now.earlier timeout with
  | error fault =>
    rw [Action.bind_of_error (Action.lift_error (by rfl))]
    simp
  | ok cutoff =>
    rw [Action.bind_of_ok (Action.lift_ok (by rfl))]
    cases hrows : w.store.listRuns none with
    | error f =>
      have hread : World.listRuns none w = .error f w := by
        rw [World.listRuns, Action.bind_of_ok Action.get_apply, Action.lift_error hrows]
      rw [Action.bind_of_error hread]
      simp
    | ok rows =>
      have hread : World.listRuns none w = .ok rows w := by
        rw [World.listRuns, Action.bind_of_ok Action.get_apply, Action.lift_ok hrows]
      rw [Action.bind_of_ok hread, sweepRuns_eq_ok_iff fun r hr =>
        hstates r ((Store.listRuns_perm hrows).mem_iff.mp hr)]
      simp

/-! What the reports of a sweep do. -/

lemma Reaches.sent_of_sane {id : String} {agenda left : List (List Message)}
    (h : Reaches e id agenda w left w') (hw : w.Sane) : w.sent <+: w'.sent := by
  induction h with
  | refl => exact List.prefix_rfl
  | @step queue agenda w failures w₁ left w' hs _ ih =>
    refine .trans ?_ (ih (stepAndDeliver_keeps hw hs).1)
    cases hr : w.store.run? id with
    | none =>
      obtain rfl := stepAndDeliver_missing hr (.inl ⟨_, hs⟩)
      exact List.prefix_rfl
    | some r =>
      obtain ⟨v, hwf, hh, hso, _⟩ := hw.hosts hr
      obtain ⟨ws, qs, _, _, rfl, _⟩ := stepAndDeliver_ok hwf hh hso hs
      exact ⟨e.sendings w.sent qs, by rw [handOver, World.sent_recordAll]⟩

lemma Reported.sane (h : Reported e text swept w w') (hw : w.Sane) :
    w'.Sane ∧ w.sent <+: w'.sent := by
  induction h with
  | nil => exact ⟨hw, List.prefix_rfl⟩
  | cons hc _ ih =>
    have hreach := advance_ok (command_ok hc).1
    obtain ⟨hw', hsent⟩ := ih (hreach.keeps hw).1
    exact ⟨hw', (hreach.sent_of_sane hw).trans hsent⟩

lemma acceptedSince_of_prefix (h : w.AcceptedSince w') (hfirst : w.sent <+: w₁.sent)
    (hlater : w₁.sent <+: w'.sent) : w.AcceptedSince w₁ ∧ w₁.AcceptedSince w' := by
  obtain ⟨l, hl⟩ := hfirst
  obtain ⟨l', hl'⟩ := hlater
  have hall : ∀ s ∈ l ++ l', s.delivery.result = .accepted := by
    intro s hs
    refine h s ?_
    rwa [World.sentSince, ← hl', ← hl, List.append_assoc, List.drop_left]
  obtain ⟨hl₁, hl₂⟩ := List.forall_mem_append.mp hall
  constructor
  · intro s hs
    rw [World.sentSince, ← hl, List.drop_left] at hs
    exact hl₁ s hs
  · intro s hs
    rw [World.sentSince, ← hl', List.drop_left] at hs
    exact hl₂ s hs

structure Fails (text : String) (swept : List (String × String)) (w w' : World) : Prop where
  failed : ∀ {id key}, (id, key) ∈ swept → ∃ r s, w'.store.run? id = some r ∧
    r.state? key = some s ∧ s.status = .failed ∧ s.error = some text
  kept : ∀ {id r}, w.store.run? id = some r → ∃ r', w'.store.run? id = some r' ∧
    ∀ k s, (id, k) ∉ swept → r.state? k = some s → s.status ≠ .pending → r'.state? k = some s

namespace Fails

protected lemma refl : Fails text [] w w := ⟨by simp, fun hr => ⟨_, hr, fun _ _ _ hs _ => hs⟩⟩

protected lemma trans (h : Fails text swept w w₁) (h' : Fails text later w₁ w') :
    Fails text (swept ++ later) w w' where
  failed {id key} hmem := by
    by_cases hlater : (id, key) ∈ later
    · exact h'.failed hlater
    · obtain ⟨r, s, hr, hs, hst, herr⟩ :=
        h.failed ((List.mem_append.mp hmem).resolve_right hlater)
      obtain ⟨r', hr', hkept⟩ := h'.kept hr
      exact ⟨r', s, hr', hkept key s hlater hs (by simp [hst]), hst, herr⟩
  kept hr := by
    obtain ⟨r₁, hr₁, hfirst⟩ := h.kept hr
    obtain ⟨r', hr', hlater⟩ := h'.kept hr₁
    refine ⟨r', hr', fun k s hk hs hp => ?_⟩
    rw [List.mem_append, not_or] at hk
    exact hlater k s hk.2 (hfirst k s hk.1 hs hp) hp

lemma callback {id key : String} {r₁ : Run} (hw : w.Sane) (ht : text ≠ "")
    (hc : e.handleCallback id key (.failure text) w = .ok r₁ w') (hacc : w.AcceptedSince w')
    (hr : w.store.run? id = some r) (hk : r.Has key .running) :
    Fails text [(id, key)] w w' := by
  obtain ⟨v, hwf, hh, hso, _⟩ := hw.hosts hr
  obtain ⟨ws, qs, hd, _, rfl⟩ :=
    (advance_ok (command_ok hc).1).acceptedSince hwf hh hso hacc rfl
  have hrow : (e.handOver (w.recordAll id ws) qs).store.run? id = some (r.afterAll w.now ws) :=
    (hh.recordAll ws).row
  obtain ⟨⟨s, hs, hst, herr⟩, hkept⟩ := hd.fails hk ht
  refine ⟨?_, fun {other q} hq => ?_⟩
  · rintro other k hmem
    obtain ⟨rfl, rfl⟩ := Prod.mk.inj (List.mem_singleton.mp hmem)
    exact ⟨_, s, hrow, hs, hst, herr⟩
  · by_cases ho : other = id
    · subst ho
      obtain rfl := Option.some.inj (hr.symm.trans hq)
      exact ⟨_, hrow, fun k s hk => hkept k s (by simpa using hk)⟩
    · exact ⟨q, (World.run?_recordAll hr other).trans ((if_neg ho).trans hq), fun _ _ _ hs _ => hs⟩

end Fails

lemma Reported.fails (h : Reported e text swept w w') (hw : w.Sane) (ht : text ≠ "")
    (hacc : w.AcceptedSince w') (hn : swept.Nodup)
    (hrun : ∀ id key, (id, key) ∈ swept → ∃ r, w.store.run? id = some r ∧ r.Has key .running) :
    Fails text swept w w' := by
  induction h with
  | nil => exact .refl
  | @cons id key _ rest w w₁ w' hc h ih =>
    obtain ⟨hkey, hrest⟩ := List.nodup_cons.mp hn
    have hreach := advance_ok (command_ok hc).1
    have hw₁ := (hreach.keeps hw).1
    obtain ⟨hacc₁, hacc'⟩ := acceptedSince_of_prefix hacc (hreach.sent_of_sane hw) (h.sane hw₁).2
    obtain ⟨r, hr, hk⟩ := hrun id key List.mem_cons_self
    have hfirst : Fails text [(id, key)] w w₁ := .callback hw ht hc hacc₁ hr hk
    refine hfirst.trans (ih hw₁ hacc' hrest fun other k hmem => ?_)
    obtain ⟨q, hq, s, hs, hst⟩ := hrun other k (List.mem_cons_of_mem _ hmem)
    obtain ⟨q', hq', hkept⟩ := hfirst.kept hq
    have hne : (other, k) ∉ [(id, key)] := fun he =>
      hkey (List.mem_singleton.mp he ▸ hmem)
    exact ⟨q', hq', s, hkept k s hne hs (by simp [hst]), hst⟩

lemma timeoutText_ne : Watchdog.timeoutText timeout ≠ "" := by
  have hlength : 0 < (Watchdog.timeoutText timeout).length := by
    unfold Watchdog.timeoutText
    generalize timeout.briefText = seconds
    rw [String.length_append]
    exact Nat.lt_of_lt_of_le (by decide) (Nat.le_add_left _ _)
  intro h
  rw [h] at hlength
  exact absurd hlength (by decide)

lemma sane_afterActivities (hw : Fresh w) (past : List (Engine × Activity)) :
    (afterActivities w past).Sane ∧ (afterActivities w past).store.runIds.Nodup := by
  obtain ⟨ops, hops, _⟩ := exists_operations (fun _ => True) (fun _ _ _ => trivial) w
    fun a (_ : a ∈ past) _ _ => trivial
  rw [hops]
  exact ⟨sane_afterOperations ops hw.sane,
    nodup_ids_afterOperations hw.sane (by simp [Store.runIds, hw.runs]) ops⟩

lemma nodup_overdue (hd : (rows.map (·.id)).Nodup) (hkeys : ∀ r ∈ rows, r.effectiveKeys.Nodup) :
    (rows.flatMap fun r => r.overdueAmong cutoff r.effectiveKeys).Nodup := by
  refine List.nodup_flatMap.mpr ⟨fun r hr => ?_, (List.pairwise_map.mp hd).imp fun hne => ?_⟩
  · exact ((hkeys r hr).filter _).map fun _ _ he => (Prod.mk.inj he).2
  · refine List.disjoint_left.mpr fun a ha hb => hne ?_
    obtain ⟨_, _, rfl⟩ := List.mem_map.mp ha
    obtain ⟨_, _, he⟩ := List.mem_map.mp hb
    exact (Prod.mk.inj he).1.symm

/-- After any operations and sweeps, a sweep that returns, all its requests being accepted, gives
the overdue ones of the effective keys of all runs, each once, in the order of the rows and of their
keys. They end up failed with the text of the timeout, and any other effective key that ran keeps
its state. -/
theorem sweep_fails_overdue (hw : Fresh w) (past : List (Engine × Activity))
    (h : Watchdog.sweep e timeout now (afterActivities w past) = .ok swept w')
    (hacc : (afterActivities w past).AcceptedSince w') :
    ∃ seconds cutoff rows, timeout = .finite seconds ∧ now.earlier timeout = .ok cutoff ∧
      cutoff.micros = now.micros - Instant.durationMicros seconds ∧
      (afterActivities w past).store.listRuns none = .ok rows ∧
      swept = rows.flatMap (fun r => r.overdueAmong cutoff r.effectiveKeys) ∧ swept.Nodup ∧
      ∀ r ∈ rows, ∃ r', w'.store.run? r.id = some r' ∧ ∀ k ∈ r.effectiveKeys,
        (r.Overdue cutoff k → ∃ s, r'.state? k = some s ∧ s.status = .failed ∧
          s.error = some (Watchdog.timeoutText timeout)) ∧
        ∀ s, r.state? k = some s → s.status = .running → ¬ r.Overdue cutoff k →
          r'.state? k = some s := by
  obtain ⟨hsane, hd⟩ := sane_afterActivities hw past
  generalize afterActivities w past = w₁ at *
  have hsound : ∀ r ∈ w₁.store.runs, ∃ p, r.Sound p := fun r hr => by
    obtain ⟨v, _, hso, _⟩ := hsane.run (Store.run?_of_mem hd hr)
    exact ⟨v.plan, hso⟩
  obtain ⟨cutoff, rows, hcutoff, hrows, rfl, hreported⟩ := (sweep_eq_ok_iff fun r hr k hk => by
    obtain ⟨p, hso⟩ := hsound r hr
    exact Run.exists_state (hso.effective_iff.mp hk).1).mp h
  have hperm := Store.listRuns_perm hrows
  have hrow : ∀ r ∈ rows, w₁.store.run? r.id = some r := fun r hr =>
    Store.run?_of_mem hd (hperm.mem_iff.mp hr)
  have hnodup : (rows.flatMap fun r => r.overdueAmong cutoff r.effectiveKeys).Nodup :=
    nodup_overdue ((hperm.map Run.id).nodup_iff.mpr hd) fun r hr => by
      obtain ⟨p, hso⟩ := hsound r (hperm.mem_iff.mp hr)
      exact hso.nodup_effectiveKeys
  have hmem : ∀ {id k}, (id, k) ∈ rows.flatMap (fun r => r.overdueAmong cutoff r.effectiveKeys) ↔
      ∃ r ∈ rows, r.id = id ∧ k ∈ r.effectiveKeys ∧ r.Overdue cutoff k := by
    simp [List.mem_flatMap, Run.mem_overdueAmong]
  have hfails := hreported.fails hsane timeoutText_ne hacc hnodup fun id key hk => by
    obtain ⟨r, hr, rfl, _, hoverdue⟩ := hmem.mp hk
    exact ⟨r, hrow r hr, hoverdue.has_running⟩
  obtain ⟨seconds, hfinite, hmicros⟩ := Instant.micros_earlier hcutoff
  refine ⟨seconds, cutoff, rows, hfinite, hcutoff, hmicros, hrows, rfl, hnodup, fun r hr => ?_⟩
  obtain ⟨r', hr', hkept⟩ := hfails.kept (hrow r hr)
  refine ⟨r', hr', fun k hk => ⟨fun hoverdue => ?_, fun s hs hrun hno => ?_⟩⟩
  · obtain ⟨q, s, hq, hs⟩ := hfails.failed (hmem.mpr ⟨r, hr, rfl, hk, hoverdue⟩)
    obtain rfl := Option.some.inj (hr'.symm.trans hq)
    exact ⟨s, hs⟩
  · refine hkept k s (fun hin => ?_) hs (by simp [hrun])
    obtain ⟨q, hq, hid, _, hoverdue⟩ := hmem.mp hin
    obtain rfl := Option.some.inj ((hrow r hr).symm.trans (hid ▸ hrow q hq))
    exact hno hoverdue

lemma handleCallback_of_returnFor {fuel : Nat} {id key : String} {c : Callback}
    (h : e.returnFor fuel id (.callback key c) w = some w') :
    ∃ r, e.handleCallback id key c w = .ok r w' := by
  obtain ⟨r, w₁, hc, hret⟩ := Action.bind_eq_ok.mp (performFor_sound (returnFor_eq h))
  obtain ⟨_, rfl⟩ := EStateM.Result.ok.inj hret
  exact ⟨r, hc⟩

def listOfOne : Keyed Json := [("items", .arr [.str "a"])]

def retriedLater (id : String) : List (Engine × Operation) :=
  [(accepting, .start "version" .byHand none (some listOfOne)),
    (accepting, .call id (.callback "other" (.failure "no"))),
    (accepting, .wait (.plus .epoch2024 100000000)), (accepting, .call id (.retry "other"))]

theorem instance_timed_out : ∃ (id : String) (w' : World) (r' : Run),
    Watchdog.sweep accepting (.finite ⟨false, 60, 0⟩) (.plus .epoch2024 110000000)
      (afterActivities (.ofCanvas fanOutBesideWorker)
        ((retriedLater id).map fun op => (op.1, .operation op.2))) = .ok [(id, "each_0")] w' ∧
    (afterActivities (.ofCanvas fanOutBesideWorker)
      ((retriedLater id).map fun op => (op.1, .operation op.2))).AcceptedSince w' ∧
    w'.store.run? id = some r' ∧ r'.Has "each_0" .failed ∧ r'.Has "other" .running := by
  -- The instance has timed out, and the other worker has time until its own start is overdue.
  have hw : Fresh (.ofCanvas fanOutBesideWorker) :=
    fresh_ofCanvas (Canvas.compile_of_checks (by decide +kernel) (by decide +kernel)
      (by decide +kernel))
  have hcutoff : Instant.earlier (.plus .epoch2024 110000000) (.finite ⟨false, 60, 0⟩) =
      .ok (.plus .epoch2024 50000000) := by decide +kernel
  obtain ⟨⟨id, w₀⟩, hstart, w₁, hcalled, w, hretried, r, _, hruns, hrev, hstates, hoverdue, hother,
      hrun, w', hreport, hacc⟩ := exists_of_any
    (x := accepting.startFor 20 "version" .byHand none (some listOfOne)
      (.ofCanvas fanOutBesideWorker))
    (P := fun x => ∃ w₁ ∈ accepting.returnFor 20 x.1 (.callback "other" (.failure "no")) x.2,
      ∃ w ∈ accepting.returnFor 20 x.1 (.retry "other")
        { w₁ with now := .plus .epoch2024 100000000 },
      ∃ r ∈ w.store.runs.head?, w.store.runs = [r] ∧ holdsRevision r.revision = true ∧
        (∀ k ∈ r.effectiveKeys, (r.state? k).isSome = true) ∧
        r.overdueAmong (.plus .epoch2024 50000000) r.effectiveKeys = [(x.1, "each_0")] ∧
        "other" ∈ r.effectiveKeys ∧ r.Has "other" .running ∧
        ∃ w' ∈ accepting.returnFor 20 x.1
          (.callback "each_0" (.failure (Watchdog.timeoutText (.finite ⟨false, 60, 0⟩)))) w,
        w.AcceptedSince w') (by decide +kernel)
  have hpast : afterActivities (.ofCanvas fanOutBesideWorker)
      ((retriedLater id).map fun op => (op.1, .operation op.2)) = w := by
    rw [afterActivities_operations]
    change Operation.after accepting _ (Operation.after accepting (.wait _)
      (Operation.after accepting _ (Operation.after accepting _ _))) = w
    rw [(Operation.start_of_startFor hstart).1, (Operation.call_of_returnFor hcalled).1]
    exact (Operation.call_of_returnFor hretried).1
  have hread : Store.readRow r = .ok r := if_pos hrev
  have hrows : w.store.listRuns none = .ok [r] := by
    simp only [Store.listRuns, hruns, Option.all_none, List.filter_true, List.mergeSort_singleton,
      List.mapM_cons, List.mapM_nil, hread]
    rfl
  obtain ⟨_, hc⟩ := handleCallback_of_returnFor hreport
  have hsweep : Watchdog.sweep accepting (.finite ⟨false, 60, 0⟩) (.plus .epoch2024 110000000) w =
      .ok [(id, "each_0")] w' := by
    refine (sweep_eq_ok_iff fun q hq k hk => ?_).mpr
      ⟨_, [r], hcutoff, hrows, by simp [hoverdue], .cons hc .nil⟩
    rw [hruns, List.mem_singleton] at hq
    subst hq
    exact Option.isSome_iff_exists.mp (hstates k hk)
  rw [← hpast] at hsweep hacc hrows
  obtain ⟨_, cutoff, rows, _, hcutoff', _, hrows', _, _, hend⟩ := sweep_fails_overdue hw _ hsweep hacc
  obtain rfl := Except.ok.inj (hcutoff.symm.trans hcutoff')
  obtain rfl := Except.ok.inj (hrows.symm.trans hrows')
  obtain ⟨r', hr', hkeys⟩ := hend r (List.mem_singleton_self r)
  have hmem : (id, "each_0") ∈ r.overdueAmong (.plus .epoch2024 50000000) r.effectiveKeys := by
    simp [hoverdue]
  obtain ⟨hid, hkey, hlate⟩ := Run.mem_overdueAmong.mp hmem
  obtain ⟨s, hs, hst, _⟩ := (hkeys _ hkey).1 hlate
  obtain ⟨u, hu, hst'⟩ := hrun
  have hintime : ¬ r.Overdue (.plus .epoch2024 50000000) "other" := fun h => by
    have hin := Run.mem_overdueAmong.mpr ⟨rfl, hother, h⟩
    simp [hoverdue] at hin
  exact ⟨id, w', r', hsweep, hacc, hid ▸ hr', ⟨s, hs, hst⟩,
    ⟨u, (hkeys _ hother).2 u hu hst' hintime, hst'⟩⟩

end Engine

end Workflow
