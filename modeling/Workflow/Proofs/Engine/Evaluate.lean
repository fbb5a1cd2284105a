import Workflow.Proofs.Engine.Life
import Workflow.Proofs.Plan.Checks

/-! Calls that are computed: queues are drained within a number of messages. -/

namespace Workflow.Engine

def drainFor (settings : Settings) (id : String) :
    Nat → Effort → Nat → List Message → List Request → World →
      Option (EStateM.Result Failure World (List Request))
  | 0, _, _, _, _, _ => none
  | _ + 1, _, _, [], requests, w => some (.ok requests w)
  | fuel + 1, budget, waiting, m :: rest, requests, w =>
    match step settings id m w with
    | .error f w' => some (.error f w')
    | .ok o w' =>
      let queue' := rest ++ o.messages
      let budget' := effort w' id queue'
      if budget'.Less budget then
        drainFor settings id fuel budget' (patience w' id queue') queue'
          (requests ++ o.requests) w'
      else
        match waiting with
        | 0 => some (.error .circularWalk w')
        | waiting + 1 =>
          drainFor settings id fuel budget waiting queue' (requests ++ o.requests) w'

def readable (w : World) (id : String) : Bool :=
  match w.store.readRun id with
  | .ok (some r) => r.isFinished.toBool
  | _ => false

def advanceFor (e : Engine) (fuel : Nat) (id : String) (queue : List Message) (w : World) :
    Option (EStateM.Result Failure World Unit) :=
  match drainFor e.settings id fuel (effort w id queue) (patience w id queue) queue [] w with
  | some (.ok qs w') =>
    if readable w' id ∧ ∀ s ∈ e.sendings w'.sent qs, s.delivery.result = .accepted then
      some (.ok () (e.handOver w' qs))
    else none
  | some (.error f w') => some (.error f w')
  | none => none

def performFor (e : Engine) (fuel : Nat) (id : String) (c : Call) (w : World) :
    Option (EStateM.Result Failure World Unit) :=
  match e.advanceFor fuel id [c.message] w with
  | some (.ok () w') => if readable w' id then some (.ok () w') else none
  | x => x

def startFor (e : Engine) (fuel : Nat) (versionId : String) (trigger : Trigger)
    (entityId : Option String) (input : Option (Keyed Json)) (w : World) :
    Option (String × World) :=
  (w.store.version? versionId).bind fun v =>
    let r := created w v trigger entityId input
    match Store.createRun w.now r w.store,
      e.advanceFor fuel r.id (v.plan.entryNodes.map .fire) (withCreated w r) with
    | .ok _, some (.ok () w') => if readable w' r.id then some (r.id, w') else none
    | _, _ => none

def returnFor (e : Engine) (fuel : Nat) (id : String) (c : Call) (w : World) : Option World :=
  match e.performFor fuel id c w with
  | some (.ok () w') => some w'
  | _ => none

def failFor (e : Engine) (fuel : Nat) (id : String) (c : Call) (w : World) : Option World :=
  match e.performFor fuel id c w with
  | some (.error _ w') => some w'
  | _ => none

def playFor (e : Engine) (fuel : Nat) (id : String) : List Call → World → Option World
  | [], w => some w
  | c :: rest, w => (e.returnFor fuel id c w).bind (playFor e fuel id rest)

variable {e : Engine} {settings : Settings} {id : String} {fuel : Nat} {w w' : World}
  {queue : List Message} {c : Call} {x : EStateM.Result Failure World Unit}

lemma drainFor_sound {budget : Effort} {waiting : Nat} {requests : List Request}
    {x : EStateM.Result Failure World (List Request)}
    (h : drainFor settings id fuel budget waiting queue requests w = some x) :
    drainWithin settings id budget waiting queue requests w = x := by
  induction fuel generalizing budget waiting queue requests w with
  | zero => cases h
  | succ fuel ih =>
    cases queue with
    | nil =>
      rw [drainWithin]
      exact Option.some.inj h
    | cons m rest =>
      rw [drainWithin]
      rw [drainFor] at h
      cases hs : step settings id m w with
      | error f w' =>
        rw [hs] at h
        exact Option.some.inj h
      | ok o w' =>
        rw [hs] at h
        dsimp only at h ⊢
        by_cases hless : (effort w' id (rest ++ o.messages)).Less budget
        · rw [if_pos hless] at h
          rw [dif_pos hless]
          exact ih h
        · rw [if_neg hless] at h
          rw [dif_neg hless]
          cases waiting with
          | zero => exact Option.some.inj h
          | succ waiting => exact ih h

lemma readRun_of_readable (h : readable w id = true) :
    ∃ r b, w.store.readRun id = .ok (some r) ∧ r.isFinished = .ok b := by
  unfold readable at h
  split at h
  · rename_i r hr
    cases hb : r.isFinished with
    | ok b => exact ⟨r, b, hr, hb⟩
    | error k =>
      rw [hb] at h
      cases h
  · cases h

lemma settleWithin_nil {budget : Effort} : e.settleWithin id budget [] w = .ok () w := by
  rw [settleWithin]

lemma deliver_accepted {qs : List Request}
    (h : ∀ s ∈ e.sendings w.sent qs, s.delivery.result = .accepted) :
    e.deliver qs w = .ok [] (e.handOver w qs) := by
  have hmishap : (e.sendings w.sent qs).findSome? mishap? = none := by
    rw [List.findSome?_eq_none_iff]
    intro s hs
    simp [mishap?, h s hs]
  have hrefusal : (e.sendings w.sent qs).filterMap refusal? = [] := by
    rw [List.filterMap_eq_nil_iff]
    intro s hs
    simp [refusal?, h s hs]
  rw [deliver, Action.bind_of_ok sendAll_eq]
  simp only [hmishap, hrefusal]
  rfl

lemma advanceFor_cases (h : e.advanceFor fuel id queue w = some x) :
    (∃ qs w₁ w', drain e.settings id queue w = .ok qs w₁ ∧
        e.stepAndDeliver id queue w = .ok [] w' ∧ x = .ok () w') ∨
      ∃ f w', drain e.settings id queue w = .error f w' ∧ x = .error f w' := by
  unfold advanceFor at h
  split at h
  · rename_i qs w' hd
    split at h
    · rename_i hok
      obtain ⟨r, b, hr, hb⟩ := readRun_of_readable hok.1
      have hrow : World.run? id w' = .ok (some r) w' := by
        simp only [World.run?, Action.bind_apply, Action.get_apply, hr]
        rfl
      have hdrain : drain e.settings id queue w = .ok qs w' := by
        rw [drain, Action.bind_of_ok Action.get_apply, Action.bind_of_ok (drainFor_sound hd),
          Action.bind_of_ok hrow]
        exact (Action.bind_of_ok (Action.lift_ok (by rw [hb]; rfl))).trans rfl
      refine .inl ⟨qs, w', e.handOver w' qs, hdrain, ?_, (Option.some.inj h).symm⟩
      rw [stepAndDeliver, Action.bind_of_ok hdrain, deliver_accepted hok.2]
    · cases h
  · rename_i f w' hd
    refine .inr ⟨f, w', ?_, (Option.some.inj h).symm⟩
    rw [drain, Action.bind_of_ok Action.get_apply, Action.bind_of_error (drainFor_sound hd)]
  · cases h

lemma advanceFor_sound (h : e.advanceFor fuel id queue w = some x) : e.advance id queue w = x := by
  rcases advanceFor_cases h with ⟨qs, w₁, w', _, hs, rfl⟩ | ⟨f, w', hd, rfl⟩
  · rw [advance, Action.bind_of_ok hs, Action.bind_of_ok Action.get_apply, settleWithin_nil]
  · have hs : e.stepAndDeliver id queue w = .error f w' := Action.bind_of_error hd
    rw [advance, Action.bind_of_error hs]

lemma run_of_readable (h : readable w id = true) : ∃ r, World.run id w = .ok r w := by
  obtain ⟨r, _, hr, _⟩ := readRun_of_readable h
  exact ⟨r, by rw [World.run_apply, hr]⟩

lemma performFor_sound (h : e.performFor fuel id c w = some x) : c.perform e id w = x := by
  unfold performFor at h
  split at h
  · rename_i w' hadv
    split at h
    · rename_i hread
      obtain rfl := Option.some.inj h
      obtain ⟨r, hrun⟩ := run_of_readable hread
      have hok := advanceFor_sound hadv
      have hcommand : e.command id c.message w = .ok r w' := by
        rw [command, Action.bind_of_ok hok, hrun]
      rcases perform_eq c e id with heq | heq
      · rw [heq, hok]
      · rw [heq, Action.bind_of_ok hcommand]
        rfl
    · cases h
  · rename_i y hne
    have hadv := advanceFor_sound h
    cases x with
    | ok a w' => exact absurd h (hne w')
    | error f w' =>
      rcases perform_eq c e id with heq | heq
      · rw [heq, hadv]
      · have hcommand : e.command id c.message w = .error f w' := Action.bind_of_error hadv
        rw [heq, Action.bind_of_error hcommand]

lemma returnFor_eq (h : e.returnFor fuel id c w = some w') :
    e.performFor fuel id c w = some (.ok () w') := by
  unfold returnFor at h
  split at h
  · rename_i hp
    rw [hp, Option.some.inj h]
  · cases h

lemma failFor_eq (h : e.failFor fuel id c w = some w') :
    ∃ f, e.performFor fuel id c w = some (.error f w') := by
  unfold failFor at h
  split at h
  · rename_i f _ hp
    exact ⟨f, by rw [hp, Option.some.inj h]⟩
  · cases h

lemma startFor_sound {versionId : String} {trigger : Trigger} {entityId : Option String}
    {input : Option (Keyed Json)}
    (h : e.startFor fuel versionId trigger entityId input w = some (id, w')) :
    (∃ r, e.startRun versionId trigger entityId input w = .ok r w' ∧ r.id = id) ∧
      ∃ v s, w.store.version? versionId = some v ∧
        Store.createRun w.now (created w v trigger entityId input) w.store = .ok s ∧
        e.advanceFor fuel (created w v trigger entityId input).id (v.plan.entryNodes.map .fire)
          (withCreated w (created w v trigger entityId input)) = some (.ok () w') ∧
        (created w v trigger entityId input).id = id := by
  obtain ⟨v, hv, h⟩ := Option.bind_eq_some_iff.mp h
  dsimp only at h
  split at h
  · rename_i s w₁ hc hadv
    split at h
    · rename_i hread
      obtain ⟨rfl, rfl⟩ := Prod.mk.inj (Option.some.inj h)
      obtain ⟨r, hrun⟩ := run_of_readable hread
      obtain ⟨_, hrow⟩ := World.run_ok hrun
      refine ⟨⟨r, ?_, Store.id_of_run? (Store.run?_of_readRun hrow)⟩, v, s, hv, hc, hadv, rfl⟩
      rcases startRun_cases e trigger entityId input hv
        with ⟨f, hf, _⟩ | ⟨_, _, _, heq⟩
      · rw [hc] at hf
        cases hf
      · rw [heq, Action.bind_of_ok (advanceFor_sound hadv), hrun]
    · cases h
  · cases h

lemma Life.of_startFor {p : Plan} {allowed : Call → Prop} {versionId : String} {v : FlowVersion}
    {trigger : Trigger} {entityId : Option String} {input : Option (Keyed Json)}
    (hv : w.store.version? versionId = some v) (hp : v.plan = p) (hr : w.rival = none)
    (h : e.startFor fuel versionId trigger entityId input w = some (id, w')) :
    Life p allowed id w' := by
  obtain ⟨⟨r, hstart, hid⟩, _⟩ := startFor_sound h
  exact .started hv hp hr hstart hid

lemma Life.of_playFor {p : Plan} {allowed : Call → Prop} {calls : List Call}
    (hl : Life p allowed id w) (hc : ∀ c ∈ calls, allowed c)
    (h : e.playFor fuel id calls w = some w') : Life p allowed id w' := by
  induction calls generalizing w with
  | nil =>
    obtain rfl := Option.some.inj h
    exact hl
  | cons c rest ih =>
    obtain ⟨hc, hrest⟩ := List.forall_mem_cons.mp hc
    obtain ⟨w₁, hp, h⟩ := Option.bind_eq_some_iff.mp h
    exact ih (.called hl hc (performFor_sound (returnFor_eq hp))) hrest h

end Workflow.Engine

namespace Workflow

def CanvasNode.bare (id : String) (kind : NodeKind) (config : Keyed Json) : CanvasNode :=
  ⟨id, kind, none, some { NodeData.empty with config? := some config }, none, none, none, none, []⟩

def CanvasEdge.bare (source target : String) (mapping : Mapping) : CanvasEdge :=
  ⟨source, source, target, some (some ⟨some (some mapping), []⟩), []⟩

def World.ofCanvas (c : Canvas) : World where
  store :=
    { flows := [⟨"flow", "flow", "workflow", none, some "version", .epoch2024, .epoch2024⟩]
      versions := [⟨"version", "flow", c, .ofCanvas c [], none, .epoch2024⟩]
      runs := []
      events := [] }
  now := .epoch2024
  issued := 0
  sent := []
  rival := none

def Engine.accepting : Engine :=
  ⟨⟨"", "http://host", .finite ⟨false, 30, 0⟩, none, none⟩, fun _ _ => ⟨none, .accepted⟩⟩

lemma Canvas.compile_of_checks {c : Canvas} (hforward : c.Forward) (hnear : c.Near)
    (h : Validation.checkStructure c ++ Validation.checkWorkers c [] ++
      Validation.checkInputs c [] ++ Validation.checkMappings c [] ++
      Validation.checkMovement c = []) :
    c.compile [] = .ok (.ofCanvas c []) := by
  have hnone : c.findings [] = [] := by
    simpa [findings, hforward.checkCycles_eq_nil, hnear.checkPairing_eq_nil] using h
  simp [compile, hnone]

lemma exists_of_any {α : Type} {P : α → Prop} [DecidablePred P] {x : Option α}
    (h : x.any (fun a => P a) = true) : ∃ a, x = some a ∧ P a := by
  simpa [Option.any_eq_true] using h

end Workflow
