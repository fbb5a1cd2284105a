import Workflow.Proofs.Engine.Apart
import Workflow.Proofs.Engine.Flowing
import Workflow.Watchdog

/-! Finished runs: nothing moves them but a retry, be it a call or a sweep of the watchdog. -/

namespace Workflow

open Store (holdsRevision)

def Action.leaves {α : Type} (x : Action α) (w : World) : World :=
  match x w with
  | .ok _ w' => w'
  | .error _ w' => w'

lemma Action.leaves_bind {α β : Type} (x : Action α) (g : α → Action β) (w : World) :
    (x >>= g).leaves w =
      match x w with
      | .ok a w' => (g a).leaves w'
      | .error _ w' => w' := by
  rw [leaves, Action.bind_apply]
  cases x w <;> rfl

lemma Action.leaves_lift {α : Type} (a : Except Failure α) (w : World) :
    (World.lift a).leaves w = w := by
  cases a <;> rfl

namespace Engine

structure Finished (p : Plan) (r : Run) : Prop where
  sound : r.Sound p
  settled : ∀ n ∈ p.nodeIds, ∀ k ∈ r.keysOf n, r.Settled k
  own : ∀ t ∈ p.nodeIds, r.hasInstances t = true → r.Has t .pending

variable {p : Plan} {now : Instant} {r : Run} {n : PlanNode} {mapping : Mapping} {key id : String}
  {input : Json} {source st : Status} {l : List String} {ws : List Write} {o : Outcome}
  {m : Message} {queue : List Message} {qs : List Request} {e : Engine} {w w' : World}

namespace Finished

lemma has_cases (h : Finished p r) (hk : r.Has key st) : st.isTerminal = true ∨ st = .pending := by
  have hdone : r.Settled key → st.isTerminal = true := by
    rintro (hs | hs)
    · rw [hk.unique hs]
      rfl
    · rw [hk.unique hs]
      rfl
  obtain ⟨s, hs, _⟩ := id hk
  rcases h.sound.key_cases (Run.mem_keys_of_state? hs) with hn | ⟨k, hreg, rfl⟩
  · by_cases hi : r.hasInstances key = true
    · exact .inr (hk.unique (h.own key hn hi))
    · exact .inl (hdone (h.settled key hn key (by simp [Run.keysOf, hi])))
  · have hmem : k.text ∈ instanceTexts r k.template := Run.mem_instanceTexts.mpr ⟨k, hreg, rfl, rfl⟩
    obtain ⟨is, hf, _⟩ := Run.registered_iff.mp hreg
    refine .inl (hdone (h.settled k.template (h.sound.counted hf).1 k.text ?_))
    rwa [Run.keysOf, if_pos (Run.Sound.hasInstances_of_mem hmem)]

lemma not_running (h : Finished p r) : ¬ r.Has key .running := fun hk => by
  simpa [Status.isTerminal] using h.has_cases hk

lemma not_waiting (h : Finished p r) : ¬ r.Has key .waitingForUser := fun hk => by
  simpa [Status.isTerminal] using h.has_cases hk

lemma not_pending (h : Finished p r) (hn : p.node? n.id = some n) (hk : key ∈ r.keysOf n.id) :
    ¬ r.Has key .pending :=
  fun hp => hp.not_settled rfl (h.settled n.id (Plan.mem_nodeIds_iff.mpr ⟨n, hn⟩) key hk)

end Finished

lemma Started.idle (h : Started p now r n key input source ws o) (hno : ¬ r.Has key source) :
    ws = [] ∧ o = .nothing := by
  cases h with
  | skipped => exact ⟨rfl, rfl⟩
  | worked hs => exact absurd hs hno

lemma Interrupted.idle (h : Interrupted now r n key source ws) (hno : ¬ r.Has key source) :
    ws = [] := by
  cases h with
  | unclaimed => rfl
  | claimed hs => exact absurd hs hno

lemma FiredSome.idle {snap : Run} (h : FiredSome p now snap n mapping r l ws)
    (hno : ∀ k ∈ l, ¬ r.Has k .pending) : ws = [] := by
  induction h with
  | stopped => rfl
  | interrupted h => exact h.idle (hno _ List.mem_cons_self)
  | passed _ ih => exact ih (List.forall_mem_cons.mp hno).2
  | fired _ _ hw _ ih =>
    obtain ⟨hkey, hrest⟩ := List.forall_mem_cons.mp hno
    obtain ⟨rfl, rfl⟩ := hw.idle hkey
    rw [ih hrest, List.append_nil]

namespace Finished

section

variable (hwf : p.WellFormed) (h : Finished p r)
include hwf h

lemma handled (hm : Handled p now r m ws o) (hq : ∀ key, .retry key ∉ m :: queue) :
    ws = [] ∧ o.requests = [] ∧ ∀ key, .retry key ∉ queue ++ o.messages := by
  have hrest : ∀ key, .retry key ∉ queue := fun key hk => hq key (List.mem_cons_of_mem _ hk)
  have hnothing : ∀ {ws : List Write} {o : Outcome}, ws = [] ∧ o = .nothing →
      ws = [] ∧ o.requests = [] ∧ ∀ key, .retry key ∉ queue ++ o.messages := by
    rintro ws o ⟨rfl, rfl⟩
    exact ⟨rfl, rfl, by simpa [Outcome.nothing] using hrest⟩
  cases hm with
  | walked | reconciled => exact ⟨rfl, rfl, by simpa [Outcome.fire] using hrest⟩
  | hollow => exact ⟨rfl, rfl, by simpa [Outcome.walk] using hrest⟩
  | strayed | missing | ignored => exact hnothing ⟨rfl, rfl⟩
  | @instances id n mapping ws o hn hi _ _ hf =>
    obtain rfl := hwf.id_eq hn
    exact hnothing (hf.idle fun k hk => h.not_pending hn (by rwa [Run.keysOf, if_pos hi]))
  | @whole id n input ws o hn hi _ hs =>
    obtain rfl := hwf.id_eq hn
    exact hnothing (hs.idle (h.not_pending hn (by simp [Run.keysOf, hi])))
  | reported hs => exact absurd hs h.not_running
  | resumed hs => exact absurd hs h.not_waiting
  | @retried key => exact absurd List.mem_cons_self (hq key)

lemma faulted (hm : Faulted p now r m ws) (hq : ∀ key, m ≠ .retry key) : ws = [] := by
  cases hm with
  | unwritten => rfl
  | @instances id n mapping ws hn hi _ hf =>
    obtain rfl := hwf.id_eq hn
    exact hf.idle fun k hk => h.not_pending hn (by rwa [Run.keysOf, if_pos hi])
  | @whole id n ws hn hi hs =>
    obtain rfl := hwf.id_eq hn
    exact hs.idle (h.not_pending hn (by simp [Run.keysOf, hi]))
  | resumed hs => exact absurd hs h.not_waiting
  | @retried key => exact absurd rfl (hq key)

lemma advanced (ha : Advanced p now r queue ws) (hq : ∀ key, .retry key ∉ queue) : ws = [] := by
  induction ha with
  | stopped => rfl
  | faulted _ hm => exact h.faulted hwf hm fun key he => hq key (he ▸ List.mem_cons_self)
  | next _ hm _ _ ih =>
    obtain ⟨rfl, _, hmore⟩ := h.handled hwf hm hq
    exact ih h hmore

lemma drained (hd : Drained p now r queue ws qs) (hq : ∀ key, .retry key ∉ queue) : qs = [] := by
  induction hd with
  | done => rfl
  | next hm _ _ ih =>
    obtain ⟨rfl, hnone, hmore⟩ := h.handled hwf hm hq
    rw [hnone, ih h hmore, List.append_nil]

end

end Finished

def Rests (id : String) (w : World) : Prop :=
  ∃ p r, p.WellFormed ∧ w.Hosts id p r ∧ r.Sound p ∧
    (holdsRevision r.revision = true → Finished p r)

namespace Rests

lemma untouched (h : Rests id w) (hu : w.Untouched id w') (hr : w'.rival = none) : Rests id w' := by
  obtain ⟨p, r, hwf, hh, hrest⟩ := h
  refine ⟨p, r, hwf, ⟨hu.row.trans hh.row, ?_, hr⟩, hrest⟩
  rw [hu.versions]
  exact hh.version

lemma step (h : Rests id w) (hq : ∀ key, .retry key ∉ queue)
    (hs : (∃ failures, e.stepAndDeliver id queue w = .ok failures w') ∨
      ∃ f, e.stepAndDeliver id queue w = .error f w') : w' = w := by
  obtain ⟨p, r, hwf, hh, hso, hrest⟩ := h
  obtain ⟨ws, qs, hadv, rfl, hdrained⟩ := stepAndDeliver_advances hwf hh hso hs
  have hidle : ws = [] ∧ qs = [] := by
    by_cases hrev : holdsRevision r.revision = true
    · have hrest := hrest hrev
      refine ⟨hrest.advanced hwf hadv hq, ?_⟩
      by_contra hne
      exact hne (hrest.drained hwf (hdrained hne).1 hq)
    -- A row that cannot be read stops every queue before its first message.
    · cases hadv with
      | stopped =>
        refine ⟨rfl, ?_⟩
        by_contra hne
        exact hrev (hdrained hne).2
      | faulted hheld | next hheld => exact absurd hheld hrev
  obtain ⟨rfl, rfl⟩ := hidle
  simp only [World.recordAll_nil, handOver, sendings, List.append_nil]

lemma operation (h : Rests id w) (hw : w.Sane) (op : Operation)
    (hop : ∀ key, op ≠ .call id (.retry key)) : w.Untouched id (op.after e w) := by
  by_cases hid : ∃ queue w₀, op.opening w = some (id, queue, w₀)
  · obtain ⟨queue, w₀, ho⟩ := hid
    rcases Operation.opening_cases ho with ⟨c, rfl⟩ | ⟨_, _, _, _, v, s, rfl, _, hid, hc⟩
    · have hretry : ∀ key, .retry key ∉ [c.message] := by
        intro key hmem
        cases c with
        | retry k => exact hop k rfl
        | callback | submit | fire | walk | reconcile => simp [Call.message] at hmem
      have hsame : (Operation.call id c).after e w = w :=
        Operation.keeps_of (P := fun w' => w' = w) (Q := fun queue => ∀ key, .retry key ∉ queue)
          (by simp) (fun heq hq hs => (step (heq ▸ h) hq hs).trans heq) rfl hretry rfl
      rw [hsame]
      exact .refl
    · obtain ⟨_, _, _, hh, _⟩ := h
      obtain ⟨hnone, _⟩ := Store.createRun_ok hc
      rw [hid, hh.row] at hnone
      cases hnone
  · exact op.untouched hw fun other queue w₀ ho he => hid ⟨queue, w₀, he ▸ ho⟩

lemma operations (h : Rests id w) (hw : w.Sane) {ops : List (Engine × Operation)}
    (hops : ∀ op ∈ ops, ∀ key, op.2 ≠ .call id (.retry key)) :
    w.Untouched id (afterOperations w ops) := by
  induction ops generalizing w with
  | nil => exact .refl
  | cons op rest ih =>
    obtain ⟨hop, hrest⟩ := List.forall_mem_cons.mp hops
    have hu := h.operation (e := op.1) hw op.2 hop
    obtain ⟨hw', -⟩ := op.2.after_cases (e := op.1) hw
    exact hu.trans (ih (h.untouched hu hw'.rival) hw' hrest)

end Rests

lemma Course.rests {r₀ : Run} (hwf : p.WellFormed) (h : Course p id r₀ w)
    (hr : w.store.run? id = some r) (hfin : r.isFinished = .ok true) : Rests id w := by
  obtain ⟨r', ht, hspared⟩ := h.carries hwf (endures_spared hwf) fun v trigger entityId now hv _ =>
    hv ▸ spared_newRun
  obtain rfl := Option.some.inj (hr.symm.trans ht.hosts.row)
  obtain ⟨b, hb, hsettled⟩ := ht.sound.isFinished_ok
  obtain rfl := Except.ok.inj (hfin.symm.trans hb)
  exact ⟨p, r, hwf, ht.hosts, ht.sound, fun hrev =>
    ⟨ht.sound, hsettled.mp rfl, fun t htm hi => (hspared hrev).own htm hi⟩⟩

lemma afterOperations_append (w : World) (ops more : List (Engine × Operation)) :
    afterOperations w (ops ++ more) = afterOperations (afterOperations w ops) more :=
  List.foldl_append

def reporting (e : Engine) (reports : List (String × String × Callback)) :
    List (Engine × Operation) :=
  reports.map fun a => (e, .call a.1 (.callback a.2.1 a.2.2))

def OnlyReports {α : Type} (e : Engine) (x : Action α) : Prop :=
  ∀ w, ∃ reports, x.leaves w = afterOperations w (reporting e reports)

namespace OnlyReports

variable {α β : Type} {x : Action α}

lemma of_reads (h : ∀ w, x.leaves w = w) : OnlyReports e x := fun w => ⟨[], h w⟩

protected lemma pure (a : α) : OnlyReports e (pure a) := .of_reads fun _ => rfl

lemma lift (a : Except Failure α) : OnlyReports e (World.lift a) := .of_reads (Action.leaves_lift a)

lemma bind {g : α → Action β} (hx : OnlyReports e x) (hg : ∀ a, OnlyReports e (g a)) :
    OnlyReports e (x >>= g) := by
  intro w
  obtain ⟨reports, hreports⟩ := hx w
  rw [Action.leaves] at hreports
  rw [Action.leaves_bind]
  cases hr : x w with
  | error f w₁ =>
    rw [hr] at hreports
    exact ⟨reports, hreports⟩
  | ok a w₁ =>
    rw [hr] at hreports
    obtain rfl : w₁ = _ := hreports
    obtain ⟨more, hmore⟩ := hg a (afterOperations w (reporting e reports))
    refine ⟨reports ++ more, hmore.trans ?_⟩
    rw [reporting, reporting, reporting, List.map_append, afterOperations_append]

lemma handleCallback (id key : String) (c : Callback) :
    OnlyReports e (e.handleCallback id key c) := by
  refine fun w => ⟨[(id, key, c)], ?_⟩
  rw [Action.leaves]
  cases h : e.handleCallback id key c w with
  | ok r w' => exact (Operation.after_eq (.inl (Action.bind_of_ok h))).symm
  | error f w' => exact (Operation.after_eq (.inr ⟨f, Action.bind_of_error h⟩)).symm

variable {timeout : Floating}

lemma sweepKeys {cutoff : Instant} (keys : List String) :
    OnlyReports e (Watchdog.sweepKeys e timeout cutoff r keys) := by
  induction keys with
  | nil => exact .pure _
  | cons key rest ih =>
    refine .bind (.lift _) fun s => ?_
    split
    · exact .bind (.handleCallback _ _ _) fun _ => .bind ih fun _ => .pure _
    · exact ih

lemma sweepRuns {cutoff : Instant} (rows : List Run) :
    OnlyReports e (Watchdog.sweepRuns e timeout cutoff rows) := by
  induction rows with
  | nil => exact .pure _
  | cons r rest ih => exact .bind (.sweepKeys _) fun _ => .bind ih fun _ => .pure _

lemma sweep {now : Instant} : OnlyReports e (Watchdog.sweep e timeout now) := by
  refine .bind (.lift _) fun cutoff => .bind (.of_reads fun w => ?_) fun rows => .sweepRuns rows
  rw [World.listRuns, Action.leaves_bind, Action.get_apply]
  exact Action.leaves_lift _ w

end OnlyReports

/-- What happens to runs: an operation, or a sweep of the watchdog at any time. -/
inductive Activity where
  | operation (op : Operation)
  | sweep (timeout : Floating) (now : Instant)

def Activity.after (e : Engine) (w : World) : Activity → World
  | .operation op => op.after e w
  | .sweep timeout now => (Watchdog.sweep e timeout now).leaves w

def afterActivities (w : World) (activities : List (Engine × Activity)) : World :=
  activities.foldl (fun w a => a.2.after a.1 w) w

lemma afterActivities_append (w : World) (as bs : List (Engine × Activity)) :
    afterActivities w (as ++ bs) = afterActivities (afterActivities w as) bs := List.foldl_append

lemma afterActivities_operations (w : World) (ops : List (Engine × Operation)) :
    afterActivities w (ops.map fun op => (op.1, .operation op.2)) = afterOperations w ops :=
  List.foldl_map

lemma exists_operations (allowed : Operation → Prop)
    (hreport : ∀ id key c, allowed (.call id (.callback key c))) (w : World)
    {as : List (Engine × Activity)} (has : ∀ a ∈ as, ∀ op, a.2 = .operation op → allowed op) :
    ∃ ops, afterActivities w as = afterOperations w ops ∧ ∀ op ∈ ops, allowed op.2 := by
  induction as generalizing w with
  | nil => exact ⟨[], rfl, by simp⟩
  | cons a rest ih =>
    obtain ⟨e, a⟩ := a
    obtain ⟨ha, hrest⟩ := List.forall_mem_cons.mp has
    obtain ⟨ops, hops, hallowed⟩ := ih (a.after e w) hrest
    cases a with
    | operation op => exact ⟨(e, op) :: ops, hops, List.forall_mem_cons.mpr ⟨ha op rfl, hallowed⟩⟩
    | sweep timeout now =>
      have hsweep : OnlyReports e (Watchdog.sweep e timeout now) := .sweep
      obtain ⟨reports, hreports⟩ := hsweep w
      refine ⟨reporting e reports ++ ops, ?_,
        List.forall_mem_append.mpr ⟨fun op hop => ?_, hallowed⟩⟩
      · rw [afterOperations_append, ← hreports]
        exact hops
      · obtain ⟨a, _, rfl⟩ := List.mem_map.mp hop
        exact hreport a.1 a.2.1 a.2.2

/-- A run that is finished, no call having fired a node of it, stays as it is, whatever happens to
it and to other runs, whether it returns or fails, until a key of it is retried: its row, its
entries and the requests sent for it. -/
theorem finished_run_untouched (hw : Fresh w) (hlog : ∀ e ∈ w.store.events, e.runId = none)
    {past later : List (Engine × Activity)}
    (hpast : ∀ a ∈ past, ∀ node, a.2 ≠ .operation (.call id (.fire node)))
    (hlater : ∀ a ∈ later, ∀ key, a.2 ≠ .operation (.call id (.retry key)))
    (hr : (afterActivities w past).store.run? id = some r) (hfin : r.isFinished = .ok true) :
    (afterActivities w past).Untouched id (afterActivities w (past ++ later)) := by
  obtain ⟨ops, hops, hcalls⟩ := exists_operations
    (fun op => ∀ node, op ≠ .call id (.fire node)) (by simp) w
    fun a ha op heq node hop => hpast a ha node (hop ▸ heq)
  rw [afterActivities_append, hops]
  rw [hops] at hr
  obtain ⟨p, r₀, hwf, hcourse⟩ := course_afterOperations hw hlog hcalls hr
  obtain ⟨more, hmore, hretries⟩ := exists_operations
    (fun op => ∀ key, op ≠ .call id (.retry key)) (by simp) (afterOperations w ops)
    fun a ha op heq key hop => hlater a ha key (hop ▸ heq)
  rw [hmore]
  exact (hcourse.rests hwf hr hfin).operations (tells_afterOperations hw hlog ops).sane hretries

def oneFails : List Call :=
  [.callback "other" (.failure "no"), .callback "each_0" ⟨.completed, .str "b", none⟩]

def tooLate : List Call :=
  [.fire "each", .callback "each" (.failure "late"), .callback "each_0" (.failure "late"),
    .walk "split"]

theorem fannedOut_run_untouched : ∃ (id : String) (past later : List (Engine × Activity)) (r : Run),
    past = ((accepting, .start "version" .byHand none (some [("items", .arr [.str "a"])])) ::
      oneFails.map fun c => (accepting, .call id c)).map (fun op => (op.1, .operation op.2)) ∧
    later = tooLate.map (fun c => (accepting, .operation (.call id c))) ++
      [(accepting, .sweep (.finite ⟨false, 5, 0⟩) .epoch2024)] ∧
    (afterActivities (.ofCanvas fanOutBesideWorker) past).store.run? id = some r ∧
    r.isFinished = .ok true ∧ r.Has "each" .pending ∧
    (afterActivities (.ofCanvas fanOutBesideWorker) past).Untouched id
      (afterActivities (.ofCanvas fanOutBesideWorker) (past ++ later)) := by
  -- The collector has joined what was left, and the template is pending still.
  have hw : Fresh (.ofCanvas fanOutBesideWorker) :=
    fresh_ofCanvas (Canvas.compile_of_checks (by decide +kernel) (by decide +kernel)
      (by decide +kernel))
  obtain ⟨⟨id, w₁⟩, hstart, w, hplay, r, hr, hfin, hpending⟩ := exists_of_any
    (x := accepting.startFor 20 "version" .byHand none (some [("items", .arr [.str "a"])])
      (.ofCanvas fanOutBesideWorker))
    (P := fun x => ∃ w ∈ accepting.playFor 20 x.1 oneFails x.2, ∃ r ∈ w.store.run? x.1,
      r.isFinished = .ok true ∧ r.Has "each" .pending)
    (by decide +kernel)
  have hend := afterOperations_of_startFor hstart hplay
  rw [← afterActivities_operations] at hend
  rw [← hend] at hr
  exact ⟨id, _, _, r, rfl, rfl, hr, hfin, hpending,
    finished_run_untouched hw (by simp [World.ofCanvas]) (by simp [oneFails])
      (by simp [tooLate]) hr hfin⟩

end Engine

end Workflow
