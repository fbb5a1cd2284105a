import Workflow.Proofs.Engine.Drained

/-! The life of a run: it is started, and calls advance it. -/

namespace Workflow.Engine

open Run (Lawful)

inductive Call where
  | callback (key : String) (c : Callback)
  | submit (key : String) (input : Json)
  | retry (key : String)
  | fire (node : String)
  | walk (key : String)
  | reconcile

namespace Call

def message : Call → Message
  | .callback key c => .callback key c
  | .submit key input => .resume key input
  | .retry key => .retry key
  | .fire node => .fire node
  | .walk key => .walk key
  | .reconcile => .reconcile

def isOrdinary : Call → Bool
  | .callback _ _ | .submit _ _ | .retry _ => true
  | _ => false

def perform (e : Engine) (id : String) : Call → Action Unit
  | .callback key c => do let _ ← e.handleCallback id key c; return
  | .submit key input => do let _ ← e.submitInput id key input; return
  | .retry key => do let _ ← e.retryNode id key; return
  | .fire node => e.fireNode id node
  | .walk key => e.walkFrom id key
  | .reconcile => do let _ ← e.reconcileRun id; return

end Call

/-- The worlds that a run lives through: it is started with a version of the plan, and then there
are calls on it, which return, and whatever leaves its row alone. -/
inductive Life (p : Plan) (allowed : Call → Prop) (id : String) : World → Prop where
  | started {e : Engine} {versionId v trigger entityId input w r w'}
      (hv : w.store.version? versionId = some v) (hp : v.plan = p) (hr : w.rival = none)
      (h : e.startRun versionId trigger entityId input w = .ok r w') (hid : r.id = id) :
      Life p allowed id w'
  | called {e : Engine} {c w w'} (h : Life p allowed id w) (hc : allowed c)
      (hp : c.perform e id w = .ok () w') : Life p allowed id w'
  | elsewhere {w w'} (h : Life p allowed id w) (hrow : w'.store.run? id = w.store.run? id)
      (hv : ∀ v, w'.store.version? v = w.store.version? v) (hr : w'.rival = none) :
      Life p allowed id w'

variable {e : Engine} {p : Plan} {r : Run} {id : String} {w w' : World} {c : Call} {f : Failure}

lemma command_ok {m : Message} (h : e.command id m w = .ok r w') :
    e.advance id [m] w = .ok () w' ∧ w'.store.readRun id = .ok (some r) := by
  obtain ⟨_, w₁, ha, hr⟩ := Action.bind_eq_ok.mp h
  obtain ⟨rfl, hr⟩ := World.run_ok hr
  exact ⟨ha, hr⟩

lemma command_error {m : Message} (h : e.command id m w = .error f w') :
    e.advance id [m] w = .ok () w' ∨ e.advance id [m] w = .error f w' := by
  rcases Action.bind_eq_error.mp h with ha | ⟨_, w₁, ha, hr⟩
  · exact .inr ha
  · exact .inl (World.run_error hr ▸ ha)

lemma perform_eq (c : Call) (e : Engine) (id : String) :
    c.perform e id = e.advance id [c.message] ∨
      c.perform e id = (e.command id c.message >>= fun _ => pure ()) := by
  cases c with
  | callback | submit | retry | reconcile => exact .inr rfl
  | fire | walk => exact .inl rfl

lemma perform_ok (h : c.perform e id w = .ok () w') : e.advance id [c.message] w = .ok () w' := by
  rcases perform_eq c e id with heq | heq
  · rwa [heq] at h
  · rw [heq] at h
    obtain ⟨q, w₁, hc, hp⟩ := Action.bind_eq_ok.mp h
    obtain ⟨_, rfl⟩ := EStateM.Result.ok.inj hp
    exact (command_ok hc).1

lemma perform_error (h : c.perform e id w = .error f w') :
    e.advance id [c.message] w = .ok () w' ∨ e.advance id [c.message] w = .error f w' := by
  rcases perform_eq c e id with heq | heq
  · rw [heq] at h
    exact .inr h
  · rw [heq] at h
    rcases Action.bind_eq_error.mp h with hc | ⟨_, _, _, hp⟩
    · exact command_error hc
    · cases hp

lemma newRun_sound {v : FlowVersion} (hwf : v.plan.WellFormed) (id : String) (t : Trigger)
    (entityId : Option String) (now : Instant) : (newRun id v t entityId now).Sound v.plan := by
  have hkeys : Keyed.keys (newRun id v t entityId now).states = v.plan.nodeIds := by
    simp [newRun, Keyed.keys, Function.comp_def]
  have hnone : ∀ {k}, ¬ (newRun id v t entityId now).Registered k := by
    intro k hk
    obtain ⟨is, hf, _⟩ := Run.registered_iff.mp hk
    cases hf
  refine ⟨hkeys ▸ hwf.nodup, List.nodup_nil, ?_, ?_, ?_, ?_, ?_⟩
  · intro n hn
    rwa [hkeys]
  · intro t is hf
    cases hf
  · exact fun hk => absurd hk hnone
  · exact fun hk => absurd hk hnone
  · intro key hk
    exact .inl (hkeys ▸ hk)

lemma has_newRun {v : FlowVersion} {t : Trigger} {entityId : Option String} {now : Instant}
    {key : String} {st : Status} (h : (newRun id v t entityId now).Has key st) : st = .pending := by
  obtain ⟨s, hs, rfl⟩ := h
  obtain ⟨n, _, he⟩ := List.mem_map.mp (Keyed.mem_of_find? hs)
  rw [← (Prod.mk.inj he).2]
  rfl

def created (w : World) (v : FlowVersion) (trigger : Trigger) (entityId : Option String)
    (input : Option (Keyed Json)) : Run :=
  newRun s!"id-{w.issued + 1}" v { trigger with payload := input.orElse fun _ => trigger.payload }
    entityId w.now

def withCreated (w : World) (r : Run) : World :=
  { w with
    issued := w.issued + 1
    store := { w.store with runs := w.store.runs ++ [r] }.log (Store.runStarted w.now r) }

section Start

variable {v : FlowVersion} {versionId : String} {trigger : Trigger} {entityId : Option String}
  {input : Option (Keyed Json)}

lemma startRun_cases (e : Engine) (trigger : Trigger) (entityId : Option String)
    (input : Option (Keyed Json)) (hv : w.store.version? versionId = some v) :
    (∃ f, Store.createRun w.now (created w v trigger entityId input) w.store = .error f ∧
        e.startRun versionId trigger entityId input w =
          .error f { w with issued := w.issued + 1 }) ∨
      ∃ s, Store.createRun w.now (created w v trigger entityId input) w.store = .ok s ∧
        w.store.run? (created w v trigger entityId input).id = none ∧
        e.startRun versionId trigger entityId input w =
          (e.advance (created w v trigger entityId input).id (v.plan.entryNodes.map .fire) >>=
            fun _ => World.run (created w v trigger entityId input).id)
            (withCreated w (created w v trigger entityId input)) := by
  have hver : World.version versionId w = .ok v w := by
    simp [World.version, World.version?, Action.bind_apply, Action.map_apply, hv]
  have hdraw : World.drawId w = .ok s!"id-{w.issued + 1}" { w with issued := w.issued + 1 } := rfl
  unfold startRun
  rw [Action.bind_of_ok hver, Action.bind_of_ok hdraw, Action.bind_of_ok Action.get_apply]
  change (∃ f, _ ∧ (World.writeStore (fun now => Store.createRun now
    (created w v trigger entityId input)) >>= fun _ => _) _ = _) ∨ _
  cases hc : Store.createRun w.now (created w v trigger entityId input) w.store with
  | error f =>
    have hwrite : World.writeStore
        (fun now => Store.createRun now (created w v trigger entityId input))
        { w with issued := w.issued + 1 } = .error f { w with issued := w.issued + 1 } := by
      simp [World.writeStore, World.write_apply, hc, Except.map]
    exact .inl ⟨f, rfl, Action.bind_of_error hwrite⟩
  | ok s =>
    obtain ⟨hnone, rfl⟩ := Store.createRun_ok hc
    have hwrite : World.writeStore
        (fun now => Store.createRun now (created w v trigger entityId input))
        { w with issued := w.issued + 1 } =
          .ok () (withCreated w (created w v trigger entityId input)) := by
      simp [World.writeStore, World.write_apply, hc, Except.map, withCreated]
    exact .inr ⟨_, rfl, hnone, Action.bind_of_ok hwrite⟩

lemma startRun_missing (hv : w.store.version? versionId = none) :
    e.startRun versionId trigger entityId input w = .error (.versionNotFound versionId) w := by
  have hver : World.version versionId w = .error (.versionNotFound versionId) w := by
    simp [World.version, World.version?, Action.bind_apply, Action.map_apply, hv]
  exact Action.bind_of_error hver

lemma hosts_withCreated (hv : w.store.version? versionId = some v) (hr : w.rival = none)
    (hnone : w.store.run? (created w v trigger entityId input).id = none) :
    (withCreated w (created w v trigger entityId input)).Hosts
      (created w v trigger entityId input).id v.plan (created w v trigger entityId input) where
  row := by
    change (w.store.runs ++ [_]).find? _ = _
    rw [List.find?_append, show w.store.runs.find? _ = none from hnone]
    simp
  version := ⟨v, Store.version?_id hv, rfl⟩
  rival := hr

lemma startRun_ok (hwf : v.plan.WellFormed) (hv : w.store.version? versionId = some v)
    (hr : w.rival = none) (h : e.startRun versionId trigger entityId input w = .ok r w') :
    (created w v trigger entityId input).id = r.id ∧
      (withCreated w (created w v trigger entityId input)).Hosts
        (created w v trigger entityId input).id v.plan (created w v trigger entityId input) ∧
      (created w v trigger entityId input).Sound v.plan ∧
      Reaches e (created w v trigger entityId input).id [v.plan.entryNodes.map .fire]
        (withCreated w (created w v trigger entityId input)) [] w' ∧
      w'.store.run? r.id = some r := by
  rcases startRun_cases e trigger entityId input hv with ⟨f, _, hf⟩ | ⟨_, _, hnone, heq⟩
  · rw [hf] at h
    cases h
  · rw [heq] at h
    obtain ⟨_, w₁, hadv, hrun⟩ := Action.bind_eq_ok.mp h
    obtain ⟨rfl, hread⟩ := World.run_ok hrun
    have hrow := Store.run?_of_readRun hread
    have hid := Store.id_of_run? hrow
    exact ⟨hid.symm, hosts_withCreated hv hr hnone, newRun_sound hwf _ _ _ _, advance_ok hadv,
      by rw [hid, hrow]⟩

end Start

section Invariant

variable {allowed : Call → Prop} {I : Run → Prop} {agenda left : List (List Message)}
  (hwf : p.WellFormed) (hcall : ∀ key c, allowed (.callback key c))
  (hstep : ∀ {r : Run} {now : Instant} {c : Call} {ws : List Write} {qs : List Request}, I r →
    r.Sound p → allowed c → Drained p now r [c.message] ws qs →
    Store.holdsRevision (r.afterAll now ws).revision = true → I (r.afterAll now ws))
include hwf hcall hstep

lemma Reaches.invariant (h : Reaches e id agenda w left w')
    (ha : ∀ q ∈ agenda, ∃ c, allowed c ∧ q = [c.message])
    (hr : ∃ r, w.Hosts id p r ∧ r.Sound p ∧ I r) : ∃ r, w'.Hosts id p r ∧ r.Sound p ∧ I r := by
  induction h with
  | refl => exact hr
  | @step queue agenda w failures w₁ left w' hs _ ih =>
    obtain ⟨r, hhosts, hso, hi⟩ := hr
    obtain ⟨⟨c, hc, rfl⟩, hrest⟩ := List.forall_mem_cons.mp ha
    obtain ⟨ws, qs, hd, hrev, rfl, _⟩ := stepAndDeliver_ok hwf hhosts hso hs
    refine ih ?_ ⟨_, hosts_handOver (hhosts.recordAll ws), hso.afterAll hwf.child_mem hd.lawful,
      hstep hi hso hc hd hrev⟩
    intro q hq
    rcases List.mem_append.mp hq with hq | hq
    · exact hrest q hq
    · obtain ⟨f, _, rfl⟩ := List.mem_map.mp hq
      exact ⟨.callback f.1 f.2, hcall f.1 f.2, rfl⟩

theorem Life.invariant
    (hstart : ∀ {id v t entityId now ws qs}, v.plan = p →
      Drained p now (newRun id v t entityId now) (p.entryNodes.map .fire) ws qs →
      Store.holdsRevision ((newRun id v t entityId now).afterAll now ws).revision = true →
      I ((newRun id v t entityId now).afterAll now ws))
    (h : Life p allowed id w) : ∃ r, w.Hosts id p r ∧ r.Sound p ∧ I r := by
  induction h with
  | @started e versionId v trigger entityId input w r w' hv hp hr h hid =>
    subst hp hid
    obtain ⟨hid, hhosts, hso, hreach, _⟩ := startRun_ok hwf hv hr h
    rw [← hid]
    cases hreach with
    | step hs hrest =>
      obtain ⟨ws, qs, hd, hrev, rfl, _⟩ := stepAndDeliver_ok hwf hhosts hso hs
      refine hrest.invariant hwf hcall hstep ?_ ⟨_, hosts_handOver (hhosts.recordAll ws),
        hso.afterAll hwf.child_mem hd.lawful, hstart rfl hd hrev⟩
      intro q hq
      obtain ⟨f, _, rfl⟩ := List.mem_map.mp hq
      exact ⟨.callback f.1 f.2, hcall f.1 f.2, rfl⟩
  | @called e c w w' _ hc hp ih =>
    exact (advance_ok (perform_ok hp)).invariant hwf hcall hstep
      (by simpa using ⟨c, hc, rfl⟩) ih
  | @elsewhere w w' _ hrow hv hr ih =>
    obtain ⟨r, hhosts, hrest⟩ := ih
    exact ⟨r, ⟨hrow.trans hhosts.row, by rw [hv]; exact hhosts.version, hr⟩, hrest⟩

end Invariant

end Workflow.Engine
