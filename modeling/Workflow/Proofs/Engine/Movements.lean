import Workflow.Proofs.Engine.Entries

/-! Where workers' outcomes send the entity of a run: the movements among its entries are those that
are due, each right after the entry of its outcome. -/

namespace Workflow

open Run (Lawful)

def Event.outcome? (e : Event) : Option WorkerResult :=
  if e.kind = .nodeStatusChanged then e.status.bind Named.ofName? else none

namespace Engine

def configuredAction (n : PlanNode) (result : WorkerResult) : Option MovementAction :=
  if n.kind = .worker then
    n.movements.bind fun m =>
      match result with
      | .completed => m.onSuccess
      | .failed => m.onFailure
  else none

/-- The movement that is due after an entry: if it tells of the outcome of a worker, or of one of
its instances, the run has an entity, and an action is configured for the outcome. -/
def movementDue (p : Plan) (r : Run) (e : Event) : Option Event := do
  let result ← e.outcome?
  let n ← e.nodeKey.bind fun key => p.node? (r.template key)
  let entity ← r.entityId
  let a ← configuredAction n result
  return entityMoved e.timestamp r entity n a result

/-- Entries other than movements, each of which is followed at once by the movement that is due
after it, if there is one. -/
inductive Escorted (due : Event → Option Event) : List Event → Prop where
  | nil : Escorted due []
  | entry {e rest} (hk : e.kind ≠ .entityMoved) (h : Escorted due rest) :
      Escorted due (e :: ((due e).toList ++ rest))

variable {due due' : Event → Option Event} {log es : List Event} {e : Event} {p : Plan}
  {now : Instant} {r q : Run} {n : PlanNode} {key id : String} {u : NodeUpdate} {c : Callback}
  {x : Write} {ws : List Write} {t : Status} {error : Option String}

namespace Escorted

lemma append (h : Escorted due log) (h' : Escorted due es) : Escorted due (log ++ es) := by
  induction h with
  | nil => exact h'
  | entry hk _ ih =>
    rw [List.cons_append, List.append_assoc]
    exact .entry hk ih

lemma congr (h : Escorted due log) (hdue : ∀ e ∈ log, due e = due' e) : Escorted due' log := by
  induction h with
  | nil => exact .nil
  | @entry e rest hk _ ih =>
    obtain ⟨he, hrest⟩ := List.forall_mem_cons.mp hdue
    rw [he]
    apply Escorted.entry hk
    apply ih
    intro f hf
    exact hrest f (List.mem_append_right _ hf)

lemma of_none (h : ∀ e ∈ log, e.kind ≠ .entityMoved ∧ due e = none) : Escorted due log := by
  induction log with
  | nil => exact .nil
  | cons e rest ih =>
    obtain ⟨⟨hk, hnone⟩, hrest⟩ := List.forall_mem_cons.mp h
    have hentry := Escorted.entry hk (ih hrest)
    rwa [hnone] at hentry

end Escorted

lemma movementDue_congr (hs : r.SameHeader q) (hentity : q.entityId = r.entityId)
    (ht : ∀ key, e.kind = .nodeStatusChanged → e.nodeKey = some key →
      q.template key = r.template key) : movementDue p q e = movementDue p r e := by
  have hmoved : ∀ entity n a result, entityMoved e.timestamp q entity n a result =
      entityMoved e.timestamp r entity n a result := by
    intro entity n a result
    simp only [entityMoved, hs.id, hs.flowId]
  unfold movementDue
  cases ho : e.outcome? with
  | none => rfl
  | some result =>
    have hk : e.kind = .nodeStatusChanged := by
      by_contra hk
      rw [Event.outcome?, if_neg hk] at ho
      cases ho
    cases hkey : e.nodeKey with
    | none => rfl
    | some key => simp only [Option.bind_some, ht key hk hkey, hentity, hmoved]

lemma movementDue_statusChanged {a : Status} (hn : p.node? (q.template key) = some n) :
    movementDue p q (Store.statusChanged now r key a t error) = do
      let result ← Named.ofName? t.name
      let entity ← q.entityId
      let a ← configuredAction n result
      return entityMoved now q entity n a result := by
  simp [movementDue, Event.outcome?, Store.statusChanged, hn]

lemma kind_of_due {m : Event} (h : movementDue p r e = some m) : m.kind = .entityMoved := by
  obtain ⟨result, _, h⟩ := Option.bind_eq_some_iff.mp h
  obtain ⟨n, _, h⟩ := Option.bind_eq_some_iff.mp h
  obtain ⟨entity, _, h⟩ := Option.bind_eq_some_iff.mp h
  obtain ⟨a, _, h⟩ := Option.bind_eq_some_iff.mp h
  obtain rfl := Option.some.inj h
  rfl

structure Accompanied (p : Plan) (r : Run) (log : List Event) : Prop where
  known : ∀ {e key}, e ∈ log → e.kind = .nodeStatusChanged → e.nodeKey = some key →
    key ∈ Keyed.keys r.states
  escorted : Escorted (movementDue p r) log

structure Undue (p : Plan) (r : Run) (e : Event) : Prop where
  kind : e.kind ≠ .entityMoved
  known : ∀ {key}, e.kind = .nodeStatusChanged → e.nodeKey = some key → key ∈ Keyed.keys r.states
  due : movementDue p r e = none

namespace Accompanied

lemma append (h : Accompanied p r log) (h' : Accompanied p r es) : Accompanied p r (log ++ es) where
  known hmem hk hkey := by
    rcases List.mem_append.mp hmem with hmem | hmem
    · exact h.known hmem hk hkey
    · exact h'.known hmem hk hkey
  escorted := h.escorted.append h'.escorted

lemma of_undue (h : ∀ e ∈ log, Undue p r e) : Accompanied p r log where
  known hmem := (h _ hmem).known
  escorted := .of_none fun e he => ⟨(h e he).kind, (h e he).due⟩

end Accompanied

section Writes

variable (hwf : p.WellFormed) (hso : r.Sound p) (hx : r.Allowed p x)
include hwf hso hx

lemma Accompanied.later (h : Accompanied p r log) : Accompanied p (r.after now x) log where
  known hmem hk hkey := Run.Sound.mem_keys_after hx (h.known hmem hk hkey)
  escorted := by
    apply h.escorted.congr
    intro e hmem
    apply Eq.symm
    apply movementDue_congr (Run.sameHeader_after x) (Run.entityId_after x)
    intro key hk hkey
    exact hso.template_after hwf.child_mem hx (h.known hmem hk hkey)

lemma undue_change {a : Status} (hkey : key ∈ Keyed.keys r.states)
    (h : t = .running ∨ ∃ n, p.node? (r.template key) = some n ∧ n.kind ≠ .worker) :
    Undue p (r.after now x) (Store.statusChanged now q key a t error) where
  kind := by simp [Store.statusChanged]
  known _ hk := Option.some.inj hk ▸ Run.Sound.mem_keys_after hx hkey
  due := by
    obtain rfl | ⟨n, hn, hk⟩ := h
    · rfl
    · rw [← hso.template_after hwf.child_mem hx hkey] at hn
      rw [movementDue_statusChanged hn]
      simp [configuredAction, hk]

lemma Plain.undue (h : Plain p r x) : ∀ e ∈ r.eventsOf now x, Undue p (r.after now x) e := by
  intro e he
  cases h with
  | begun =>
    obtain ⟨s, t, hs, hu, rfl⟩ := Run.mem_changeEvents he
    apply undue_change hwf hso hx (Run.mem_keys_of_state? hs)
    exact .inl (Option.some.inj hu).symm
  | moved hn hk =>
    obtain ⟨s, t, hs, hu, rfl⟩ := Run.mem_changeEvents he
    apply undue_change hwf hso hx (Run.mem_keys_of_state? hs)
    exact .inr ⟨_, hn, hk⟩
  | @spawned key _ _ _ hn hk =>
    rcases List.mem_append.mp he with he | he
    · obtain ⟨t, _, rfl⟩ := List.mem_map.mp he
      exact ⟨by simp [Store.instancesCreated], by simp [Store.instancesCreated], rfl⟩
    · obtain ⟨s, t, _, hu, rfl⟩ := Run.mem_changeEvents he
      have hkey : key ∈ Keyed.keys r.states := by
        cases hx with
        | spawn _ hs => exact Run.mem_keys_of_state? hs
      apply undue_change hwf hso hx hkey
      exact .inr ⟨_, hn, hk⟩

end Writes

lemma configuredAction_result : configuredAction n c.result = movementAfter n c := by
  unfold configuredAction movementAfter Callback.succeeded
  cases c.result <;> rfl

lemma accompanied_report (hs : r.Has key .running) (hn : p.node? (r.template key) = some n)
    (hq : q = r.update now key (reported c)) :
    Accompanied p q (r.changeEvents now key (reported c) ++
      q.entriesOf now (movementNotes now q n c)) := by
  obtain ⟨s, hs, _⟩ := hs
  obtain ⟨t, hu, hname⟩ : ∃ t, (reported c).status = some t ∧
      Named.ofName? t.name = some c.result := by
    unfold reported
    cases c.result <;> exact ⟨_, rfl, rfl⟩
  obtain ⟨e, he⟩ : ∃ e, e = Store.statusChanged now r key s.status t
      ((reported c).apply now s).error := ⟨_, rfl⟩
  have hevents : r.changeEvents now key (reported c) = [e] := he ▸ Run.changeEvents_eq hs hu
  have hn' : p.node? (q.template key) = some n := by rwa [hq, Run.Sound.template_update]
  -- The note of the report and the movement that is due come about in the same way.
  have hdue : q.entriesOf now (movementNotes now q n c) = (movementDue p q e).toList := by
    rw [he, movementDue_statusChanged hn', hname, movementNotes]
    simp only [Option.bind_eq_bind, Option.bind_some, configuredAction_result]
    cases q.entityId with
    | none => rfl
    | some entity => cases movementAfter n c <;> rfl
  have hentry : Escorted (movementDue p q) (e :: ((movementDue p q e).toList ++ [])) := by
    apply Escorted.entry _ .nil
    simp [he, Store.statusChanged]
  rw [hevents, hdue]
  refine ⟨fun {f k} hmem hk hkey => ?_, by rwa [List.append_nil] at hentry⟩
  rcases List.mem_cons.mp hmem with rfl | hmem
  · rw [he] at hkey
    obtain rfl := Option.some.inj hkey
    rw [hq, Run.mem_keys_update_iff hs]
    exact Run.mem_keys_of_state? hs
  · rw [kind_of_due (Option.mem_toList.mp hmem)] at hk
    cases hk

lemma Accompanied.afterAll (hwf : p.WellFormed) (hso : r.Sound p) (hl : Lawful p now r ws)
    (hrec : Recounts p now r ws) (h : Accompanied p r log) :
    Accompanied p (r.afterAll now ws) (log ++ r.entriesOf now ws) := by
  -- The entries so far are carried along, since what is due after them is seen on the last row.
  induction hrec generalizing log with
  | nil => simpa [Run.entriesOf] using h
  | plain hplain _ ih =>
    cases hl with
    | cons hx hrest =>
      rw [Run.entriesOf, ← List.append_assoc]
      apply ih (hso.after hwf.child_mem hx) hrest
      exact (h.later hwf hso hx).append (.of_undue (hplain.undue hwf hso hx))
  | reported hs hn _ ih =>
    cases hl with
    | cons hx hrest =>
      replace hrest := hrest.of_append
      rw [afterAll_notes movementNotes_kind] at hrest
      rw [Run.afterAll_cons, Run.afterAll_append, afterAll_notes movementNotes_kind, Run.entriesOf,
        Run.entriesOf_append, Run.after, afterAll_notes movementNotes_kind, ← List.append_assoc,
        ← List.append_assoc, List.append_assoc log]
      apply ih (hso.after hwf.child_mem hx) hrest
      exact (h.later hwf hso hx).append (accompanied_report hs hn rfl)

lemma tale_accompanied : Tale Accompanied where
  born id v trigger entityId now _ := by
    apply Accompanied.of_undue
    intro e he
    obtain rfl := List.mem_singleton.mp he
    exact ⟨by simp [Store.runStarted], by simp [Store.runStarted], rfl⟩
  kept hwf hso hl hrec h := h.afterAll hwf hso hl hrec

/-- Whatever operations there are, and whether they return or fail: the movements among the entries
of a run are those that workers' outcomes ask for, each right after the entry of its outcome. -/
theorem movements_match_outcomes {w : World} (hw : Fresh w)
    (hlog : ∀ e ∈ w.store.events, e.runId = none) (ops : List (Engine × Operation))
    (hr : (afterOperations w ops).store.run? id = some r) :
    ∃ v, (afterOperations w ops).store.version? r.versionId = some v ∧
      Escorted (movementDue v.plan r) ((afterOperations w ops).store.entries id) := by
  have htells := tale_accompanied.afterOperations hw hlog ops
  obtain ⟨v, hv, _⟩ := htells.sane.run hr
  exact ⟨v, hv, (htells.row hr hv).escorted⟩

def workerWithSections : Canvas :=
  let worker := CanvasNode.bare "work" .worker [("webhook_url", .str "http://worker")]
  let movements : Movements := ⟨some (some ⟨"won", .success, some (some .customer)⟩),
    some (some ⟨"lost", .failure, none⟩)⟩
  { nodes? := some [.bare "won" .frame [], .bare "lost" .frame [],
      { worker with data? := some { worker.data with movements? := some (some movements) } }]
    edges? := some [] }

def lateReport : List Call :=
  [.callback "work" (.failure "no"), .retry "work",
    .callback "work" ⟨.completed, .str "done", none⟩, .callback "work" (.failure "late")]

theorem movements_of_two_attempts : ∃ (id : String) (w : World) (r : Run) (v : FlowVersion),
    w = afterOperations (.ofCanvas workerWithSections)
      ((accepting, .start "version" .byHand (some "lead") none) ::
        lateReport.map fun c => (accepting, .call id c)) ∧
    w.store.run? id = some r ∧ w.store.version? r.versionId = some v ∧
    ((w.store.entries id).filter fun e => e.kind = .entityMoved).map
        (fun e => Keyed.find? e.payload "target_section_id") =
      [some (.str "lost"), some (.str "won")] ∧
    Escorted (movementDue v.plan r) (w.store.entries id) := by
  have hw : Fresh (.ofCanvas workerWithSections) :=
    fresh_ofCanvas (Canvas.compile_of_checks (by decide +kernel) (by decide +kernel)
      (by decide +kernel))
  obtain ⟨⟨id, w₁⟩, hstart, w, hplay, r, hr, hmoves⟩ := exists_of_any
    (x := accepting.startFor 20 "version" .byHand (some "lead") none
      (.ofCanvas workerWithSections))
    (P := fun x => ∃ w ∈ accepting.playFor 20 x.1 lateReport x.2, ∃ r ∈ w.store.run? x.1,
      ((w.store.entries x.1).filter fun e => e.kind = .entityMoved).map
        (fun e => Keyed.find? e.payload "target_section_id") =
          [some (.str "lost"), some (.str "won")])
    (by decide +kernel)
  have hend := afterOperations_of_startFor hstart hplay
  have hmatch := movements_match_outcomes hw (by simp [World.ofCanvas])
    ((accepting, .start "version" .byHand (some "lead") none) ::
      lateReport.map fun c => (accepting, .call id c)) (hend ▸ hr)
  rw [hend] at hmatch
  obtain ⟨v, hv, hescorted⟩ := hmatch
  exact ⟨id, w, r, v, hend.symm, hr, hv, hmoves, hescorted⟩

end Engine

end Workflow
