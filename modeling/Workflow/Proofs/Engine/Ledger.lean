import Workflow.Proofs.Engine.Evaluate
import Workflow.Proofs.Engine.Requests

/-! What calls of any kind do to the correspondence of requests and starts, whether they return or
fail. -/

namespace Workflow

open Run (Lawful)

namespace World

structure Sane (w : World) : Prop where
  rival : w.rival = none
  compiled : ∀ {id v}, w.store.version? id = some v → v.plan.WellFormed
  run : ∀ {id r}, w.store.run? id = some r →
    ∃ v, w.store.version? r.versionId = some v ∧ r.Sound v.plan ∧ Engine.Forms v.plan r
  unknown : ∀ {id key}, (∀ r, w.store.run? id = some r → key ∉ Keyed.keys r.states) →
    startsIn id key w.store.events = 0

def Keeps (w w' : World) : Prop :=
  ∀ id key, w'.requests id key + w.workerStarts id key =
    w.requests id key + w'.workerStarts id key

variable {w w' w'' : World} {id key : String} {p : Plan} {r : Run} {ws : List Write}

protected lemma Keeps.refl : w.Keeps w := fun _ _ => rfl

lemma Keeps.trans (h : w.Keeps w') (h' : w'.Keeps w'') : w.Keeps w'' := by
  intro i k
  have := h i k
  have := h' i k
  omega

lemma Sane.hosts (hw : w.Sane) (hr : w.store.run? id = some r) :
    ∃ v : FlowVersion, v.plan.WellFormed ∧ w.Hosts id v.plan r ∧ r.Sound v.plan ∧
      Engine.Forms v.plan r := by
  obtain ⟨v, hv, hso, hforms⟩ := hw.run hr
  exact ⟨v, hw.compiled hv, ⟨hr, ⟨v, hv, rfl⟩, hw.rival⟩, hso, hforms⟩

lemma isWorkerKey_eq (h : w.Hosts id p r) : w.isWorkerKey id key = p.isWorker (r.template key) := by
  obtain ⟨v, hv, rfl⟩ := h.version
  simp [isWorkerKey, h.row, hv]

lemma known_of_claims (h : Lawful p w.now r ws) (hpos : 0 < claimsIn key ws) :
    key ∈ Keyed.keys (r.afterAll w.now ws).states := by
  induction h with
  | nil => simp [claimsIn] at hpos
  | @cons r x rest hx hrest ih =>
    rw [Run.afterAll_cons]
    by_cases hlater : 0 < claimsIn key rest
    · exact ih hlater
    · have hone : x.isClaim key = true := by
        simp only [claimsIn, List.countP_cons] at hpos hlater
        split at hpos
        · assumption
        · omega
      refine Run.Sound.mem_keys_afterAll hrest (Run.Sound.mem_keys_after hx ?_)
      cases hx with
      | claim hs | park _ hs | complete _ hs | fail _ hs =>
        simp only [Write.isClaim, Bool.and_eq_true, beq_iff_eq] at hone
        exact hone.1 ▸ Run.mem_keys_of_state? hs
      | spawn | note => simp [Write.isClaim] at hone

section Recorded

variable (hw : w.Sane) (hwf : p.WellFormed) (h : w.Hosts id p r) (hso : r.Sound p)
  (hforms : Engine.Forms p r) (hl : Lawful p w.now r ws)
include hw hwf h hso hl

lemma workerStarts_recordAll (other key : String) :
    (w.recordAll id ws).workerStarts other key = w.workerStarts other key +
      if other = id then
        if p.isWorker ((r.afterAll w.now ws).template key) then claimsIn key ws else 0
      else 0 := by
  have hstarts := startsIn_recordAll other key h hl
  by_cases ho : other = id
  · subst ho
    simp only [workerStarts, isWorkerKey_eq h, isWorkerKey_eq (h.recordAll ws), hstarts,
      ↓reduceIte]
    by_cases hk : key ∈ Keyed.keys r.states
    · rw [hso.template_afterAll hwf.child_mem hl hk]
      split <;> simp
    · have hzero : startsIn other key w.store.events = 0 := by
        refine hw.unknown fun q hq => ?_
        rwa [Option.some.inj (hq.symm.trans h.row)]
      simp [hzero]
  · have hrow : (w.recordAll id ws).store.run? other = w.store.run? other := by
      rw [run?_recordAll h.row, if_neg ho]
    have hworker : (w.recordAll id ws).isWorkerKey other key = w.isWorkerKey other key := by
      simp [isWorkerKey, hrow]
    rw [workerStarts, workerStarts, hworker, hstarts]
    simp [ho]

include hforms

lemma Sane.recordAll : (w.recordAll id ws).Sane where
  rival := rival_recordAll.trans hw.rival
  compiled hv := hw.compiled (by rwa [version?_recordAll] at hv)
  run {other q} hq := by
    rw [run?_recordAll h.row] at hq
    simp only [version?_recordAll]
    split at hq
    · obtain ⟨v, hv, rfl⟩ := (h.recordAll ws).version
      rw [version?_recordAll] at hv
      obtain rfl := Option.some.inj hq
      exact ⟨v, hv, hso.afterAll hwf.child_mem hl, Engine.forms_afterAll hwf hso hforms hl⟩
    · exact hw.run hq
  unknown {other key} hno := by
    rw [startsIn_recordAll other key h hl]
    simp only [run?_recordAll h.row] at hno
    by_cases ho : other = id
    · subst ho
      simp only [↓reduceIte, Option.some.injEq, forall_eq'] at hno
      have hzero : startsIn other key w.store.events = 0 := by
        refine hw.unknown fun q hq => ?_
        rw [Option.some.inj (hq.symm.trans h.row)]
        exact fun hk => hno (Run.Sound.mem_keys_afterAll hl hk)
      have hclaims : claimsIn key ws = 0 :=
        Nat.eq_zero_of_not_pos fun hpos => hno (known_of_claims hl hpos)
      simp [hzero, hclaims]
    · simp only [ho, ↓reduceIte] at hno
      simpa [ho] using hw.unknown hno

end Recorded

end World

namespace Engine

open World (Sane Keeps)

variable {e : Engine} {settings : Settings} {w w' : World} {id : String} {p : Plan} {r : Run}
  {ws : List Write} {qs : List Request} {queue : List Message} {f : Failure}
  {failures : List (String × Callback)} {agenda left : List (List Message)}

lemma requests_handOver (i k : String) :
    (e.handOver w qs).requests i k = w.requests i k + requestsFor i k qs := by
  simp [World.requests, handOver, map_request_sendings]

lemma sane_handOver (hw : w.Sane) : (e.handOver w qs).Sane :=
  ⟨hw.rival, hw.compiled, hw.run, hw.unknown⟩

lemma drained_keeps (hw : w.Sane) (hwf : p.WellFormed) (h : w.Hosts id p r) (hso : r.Sound p)
    (hforms : Forms p r) (hd : Drained p w.now r queue ws qs) :
    (e.handOver (w.recordAll id ws) qs).Sane ∧ w.Keeps (e.handOver (w.recordAll id ws) qs) := by
  refine ⟨sane_handOver (hw.recordAll hwf h hso hforms hd.lawful), fun i k => ?_⟩
  have hm := hd.matches hwf hso hforms
  have hid : (r.afterAll w.now ws).id = id := (h.recordAll ws).id_eq
  have hstarts := World.workerStarts_recordAll hw hwf h hso hd.lawful i k
  have hrequests : (w.recordAll id ws).requests i k = w.requests i k := by simp [World.requests]
  have hsame : (e.handOver (w.recordAll id ws) qs).workerStarts i k =
      (w.recordAll id ws).workerStarts i k := rfl
  rw [requests_handOver, hrequests, hsame, hstarts]
  by_cases hi : i = id
  · subst hi
    have hcount := hm.count k
    rw [hid] at hcount
    rw [hcount]
    simp only [↓reduceIte]
    omega
  · have hnone : requestsFor i k qs = 0 := by
      rw [requestsFor, List.countP_eq_zero]
      intro q hq
      simp [hm.own q hq, hid, Ne.symm hi]
    simp [hnone, hi]

lemma step_missing {m : Message} (hr : w.store.run? id = none) :
    step settings id m w = .error (.runNotFound id) w := by
  have hread : w.store.readRun id = .ok none := by simp [Store.readRun, hr]
  exact Action.bind_of_error (by rw [World.run_apply, hread])

lemma drain_missing (hr : w.store.run? id = none) :
    drain settings id queue w = if queue = [] then .ok [] w else .error (.runNotFound id) w := by
  have hread : w.store.readRun id = .ok none := by simp [Store.readRun, hr]
  have hrun? : World.run? id w = .ok none w := by
    simp [World.run?, Action.bind_apply, hread, World.lift]
  rw [drain, Action.bind_of_ok Action.get_apply]
  cases queue with
  | nil =>
    have hnil : drainWithin settings id (effort w id []) (patience w id []) [] [] w = .ok [] w := by
      rw [drainWithin]
    rw [Action.bind_of_ok hnil]
    exact (Action.bind_of_ok hrun?).trans rfl
  | cons m rest =>
    refine Action.bind_of_error ?_
    rw [drainWithin, step_missing hr]

lemma stepAndDeliver_keeps (hw : w.Sane) (hs : e.stepAndDeliver id queue w = .ok failures w') :
    w'.Sane ∧ w.Keeps w' := by
  cases hr : w.store.run? id with
  | none =>
    obtain ⟨qs, w₁, hd, hdel⟩ := Action.bind_eq_ok.mp hs
    rw [drain_missing hr] at hd
    split at hd
    · obtain ⟨rfl, rfl⟩ := EStateM.Result.ok.inj hd
      obtain ⟨rfl, _⟩ := deliver_ok hdel
      exact ⟨sane_handOver hw, fun i k => by rw [requests_handOver]; rfl⟩
    · cases hd
  | some r =>
    obtain ⟨v, hwf, h, hso, hforms⟩ := hw.hosts hr
    obtain ⟨ws, qs, hd, _, rfl, _⟩ := stepAndDeliver_ok hwf h hso hs
    exact drained_keeps hw hwf h hso hforms hd

lemma drain_error (hw : w.Sane) (hd : drain settings id queue w = .error f w') :
    w'.Sane ∧ (∀ i k, w'.requests i k = w.requests i k) ∧
      (∀ i k, w.workerStarts i k ≤ w'.workerStarts i k) ∧
      ∀ i k, i ≠ id → w'.workerStarts i k = w.workerStarts i k := by
  cases hr : w.store.run? id with
  | none =>
    rw [drain_missing hr] at hd
    split at hd
    · cases hd
    · obtain ⟨_, rfl⟩ := EStateM.Result.error.inj hd
      exact ⟨hw, fun _ _ => rfl, fun _ _ => le_rfl, fun _ _ _ => rfl⟩
  | some r =>
    obtain ⟨v, hwf, h, hso, hforms⟩ := hw.hosts hr
    obtain ⟨ws, rfl, hadv⟩ := (drain_ends hwf h hso).error hd
    have hl := hadv.lawful
    have hstarts := World.workerStarts_recordAll hw hwf h hso hl
    refine ⟨hw.recordAll hwf h hso hforms hl, fun i k => by simp [World.requests], fun i k => ?_,
      fun i k hi => ?_⟩
    · rw [hstarts]
      omega
    · rw [hstarts, if_neg hi, Nat.add_zero]

lemma Reaches.keeps (h : Reaches e id agenda w left w') (hw : w.Sane) : w'.Sane ∧ w.Keeps w' := by
  induction h with
  | refl => exact ⟨hw, .refl⟩
  | step hs _ ih =>
    obtain ⟨hw₁, hk⟩ := stepAndDeliver_keeps hw hs
    obtain ⟨hw', hk'⟩ := ih hw₁
    exact ⟨hw', hk.trans hk'⟩

lemma Breaks.cases (h : Breaks e id agenda w w') (hw : w.Sane) :
    w'.Sane ∧ (w.Keeps w' ∨ ∃ q rest mid f, Reaches e id agenda w (q :: rest) mid ∧
      drain e.settings id q mid = .error f w') := by
  obtain ⟨left, mid, hr, hend⟩ := h
  obtain ⟨hmid, hk⟩ := hr.keeps hw
  rcases hend with rfl | ⟨queue, rest, f, rfl, hs⟩
  · exact ⟨hmid, .inl hk⟩
  · cases hrow : mid.store.run? id with
    | none =>
      rcases Action.bind_eq_error.mp hs with hd | ⟨qs, w₁, hd, hdel⟩
      · exact ⟨(drain_error hmid hd).1, .inr ⟨queue, rest, mid, f, hr, hd⟩⟩
      · rw [drain_missing hrow] at hd
        split at hd
        · obtain ⟨rfl, rfl⟩ := EStateM.Result.ok.inj hd
          obtain rfl := deliver_error hdel
          exact ⟨sane_handOver hmid, .inl (hk.trans fun i k => by rw [requests_handOver]; rfl)⟩
        · cases hd
    | some r =>
      obtain ⟨v, hwf, h, hso, hforms⟩ := hmid.hosts hrow
      rcases stepAndDeliver_error hwf h hso hs with ⟨ws, qs, hd, rfl⟩ | ⟨hd, _⟩
      · obtain ⟨hw', hk'⟩ := drained_keeps (e := e) hmid hwf h hso hforms hd
        exact ⟨hw', .inl (hk.trans hk')⟩
      · exact ⟨(drain_error hmid hd).1, .inr ⟨queue, rest, mid, f, hr, hd⟩⟩

inductive Operation where
  | start (versionId : String) (trigger : Trigger) (entityId : Option String)
    (input : Option (Keyed Json))
  | call (id : String) (c : Call)
  | wait (now : Instant)

namespace Operation

def perform (e : Engine) : Operation → Action Unit
  | .start versionId trigger entityId input => do
    let _ ← e.startRun versionId trigger entityId input; return
  | .call id c => c.perform e id
  | .wait now => modify fun w => { w with now }

def after (e : Engine) (op : Operation) (w : World) : World :=
  match op.perform e w with
  | .ok _ w' => w'
  | .error _ w' => w'

def opening (w : World) : Operation → Option (String × List Message × World)
  | .start versionId trigger entityId input =>
    (w.store.version? versionId).bind fun v =>
      let r := created w v trigger entityId input
      match Store.createRun w.now r w.store with
      | .ok _ => some (r.id, v.plan.entryNodes.map .fire, withCreated w r)
      | .error _ => none
  | .call id c => some (id, [c.message], w)
  | .wait _ => none

def DropsRequest (e : Engine) (op : Operation) (w : World) : Prop :=
  ∃ id queue w₀, op.opening w = some (id, queue, w₀) ∧
    ∃ q rest mid f, Reaches e id [queue] w₀ (q :: rest) mid ∧
      drain e.settings id q mid = .error f (op.after e w) ∧
      ∃ key, mid.workerStarts id key < (op.after e w).workerStarts id key

end Operation

def afterOperations (w : World) (ops : List (Engine × Operation)) : World :=
  ops.foldl (fun w op => op.2.after op.1 w) w

/-- None of the operations breaks off in a step that has marked a worker's key as running. -/
def NothingDropped : World → List (Engine × Operation) → Prop
  | _, [] => True
  | w, (e, op) :: rest => ¬ op.DropsRequest e w ∧ NothingDropped (op.after e w) rest

/-- A world in which no run was started yet, and whose versions are compiled. -/
structure Fresh (w : World) : Prop where
  rival : w.rival = none
  runs : w.store.runs = []
  events : ∀ e ∈ w.store.events, e.kind ≠ .nodeStatusChanged
  sent : w.sent = []
  compiled : ∀ v ∈ w.store.versions, ∃ c catalogue, Canvas.compile c catalogue = .ok v.plan

def Bounded (w : World) : Prop := ∀ id key, w.requests id key ≤ w.workerStarts id key

section Created

variable {v : FlowVersion} {versionId : String} {trigger : Trigger} {entityId : Option String}
  {input : Option (Keyed Json)}

lemma run?_withCreated (r : Run) (other : String) :
    (withCreated w r).store.run? other =
      (w.store.run? other).or (if other = r.id then some r else none) := by
  change (w.store.runs ++ [r]).find? _ = _
  rw [List.find?_append, List.find?_singleton]
  simp [Store.run?, eq_comm]

lemma startsIn_withCreated (r : Run) (id key : String) :
    startsIn id key (withCreated w r).store.events = startsIn id key w.store.events := by
  change startsIn id key (w.store.logAll [Store.runStarted w.now r]).events = _
  have hzero : startsIn id key [Store.runStarted w.now r] = 0 :=
    startsIn_eq_zero (by simp [Store.runStarted])
  rw [startsIn_logAll, hzero, Nat.add_zero]

variable (hw : w.Sane) (hv : w.store.version? versionId = some v)
  (hnone : w.store.run? (created w v trigger entityId input).id = none)
include hw hv hnone

lemma sane_withCreated : (withCreated w (created w v trigger entityId input)).Sane where
  rival := hw.rival
  compiled := hw.compiled
  run {id r} hr := by
    rw [run?_withCreated] at hr
    cases hold : w.store.run? id with
    | some q =>
      rw [hold] at hr
      exact hw.run (hold.trans hr)
    | none =>
      rw [hold, Option.none_or] at hr
      split at hr
      · obtain rfl := Option.some.inj hr
        obtain ⟨v', hv', hp⟩ := (hosts_withCreated hv hw.rival hnone).version
        obtain rfl : v' = v := Option.some.inj (hv'.symm.trans (Store.version?_id hv))
        refine ⟨v', hv', newRun_sound (hw.compiled hv) _ _ _ _, ?_⟩
        rintro key ⟨s, hs, hwait⟩
        obtain ⟨m, _, he⟩ := List.mem_map.mp (Keyed.mem_of_find? hs)
        rw [← (Prod.mk.inj he).2] at hwait
        cases hwait
      · cases hr
  unknown {id key} hno := by
    rw [startsIn_withCreated]
    refine hw.unknown fun r hr => hno r ?_
    rw [run?_withCreated, hr, Option.some_or]

omit hv hnone in
lemma keeps_withCreated : w.Keeps (withCreated w (created w v trigger entityId input)) := by
  intro id key
  have hstarts : (withCreated w (created w v trigger entityId input)).workerStarts id key =
      w.workerStarts id key := by
    simp only [World.workerStarts, startsIn_withCreated]
    cases hold : w.store.run? id with
    | some q =>
      have hworker : (withCreated w (created w v trigger entityId input)).isWorkerKey id key =
          w.isWorkerKey id key := by
        simp only [World.isWorkerKey, run?_withCreated, hold, Option.some_or]
        rfl
      rw [hworker]
    | none =>
      have hzero : startsIn id key w.store.events = 0 := by
        refine hw.unknown fun r hr => ?_
        rw [hold] at hr
        cases hr
      simp [hzero]
  rw [hstarts]
  rfl

end Created

lemma Operation.opening_keeps {op : Operation} {w₀ : World} (hw : w.Sane)
    (ho : op.opening w = some (id, queue, w₀)) : w₀.Sane ∧ w.Keeps w₀ := by
  cases op with
  | start versionId trigger entityId input =>
    obtain ⟨v, hv, ho⟩ := Option.bind_eq_some_iff.mp ho
    dsimp only at ho
    split at ho
    · rename_i s hc
      obtain ⟨hnone, _⟩ := Store.createRun_ok hc
      obtain ⟨rfl, rfl, rfl⟩ := by simpa using ho
      exact ⟨sane_withCreated hw hv hnone, keeps_withCreated hw⟩
    · cases ho
  | call id c =>
    obtain ⟨rfl, rfl, rfl⟩ := by simpa [opening] using ho
    exact ⟨hw, .refl⟩
  | wait now => cases ho

lemma Operation.after_eq {op : Operation}
    (h : op.perform e w = .ok () w' ∨ ∃ f, op.perform e w = .error f w') : op.after e w = w' := by
  rcases h with h | ⟨f, h⟩
  · rw [after, h]
  · rw [after, h]

lemma Operation.advance_after {op : Operation} {w₀ : World}
    (ho : op.opening w = some (id, queue, w₀)) :
    e.advance id queue w₀ = .ok () (op.after e w) ∨
      ∃ f, e.advance id queue w₀ = .error f (op.after e w) := by
  cases op with
  | start versionId trigger entityId input =>
    obtain ⟨v, hv, ho⟩ := Option.bind_eq_some_iff.mp ho
    dsimp only at ho
    split at ho
    · rename_i s hc
      obtain ⟨rfl, rfl, rfl⟩ := by simpa using ho
      rcases startRun_cases e trigger entityId input hv with ⟨f, hf, _⟩ | ⟨_, _, _, heq⟩
      · rw [hc] at hf
        cases hf
      · cases hadv : e.advance (created w v trigger entityId input).id
            (v.plan.entryNodes.map .fire) (withCreated w (created w v trigger entityId input)) with
        | error f w' =>
          rw [after_eq (.inr ⟨f, Action.bind_of_error (heq.trans (Action.bind_of_error hadv))⟩)]
          exact .inr ⟨f, rfl⟩
        | ok a w' =>
          rw [Action.bind_of_ok hadv] at heq
          refine .inl (congrArg (EStateM.Result.ok ()) (after_eq ?_).symm)
          cases hrun : World.run (created w v trigger entityId input).id w' with
          | ok q w'' =>
            obtain ⟨rfl, _⟩ := World.run_ok hrun
            exact .inl (Action.bind_of_ok (heq.trans hrun))
          | error f w'' =>
            obtain rfl := World.run_error hrun
            exact .inr ⟨f, Action.bind_of_error (heq.trans hrun)⟩
    · cases ho
  | call id c =>
    obtain ⟨rfl, rfl, rfl⟩ := by simpa [opening] using ho
    cases hp : c.perform e id w with
    | ok a w' =>
      have hafter : Operation.after e (.call id c) w = w' := after_eq (.inl hp)
      exact hafter ▸ .inl (perform_ok hp)
    | error f w' =>
      have hafter : Operation.after e (.call id c) w = w' := after_eq (.inr ⟨f, hp⟩)
      exact hafter ▸ (perform_error hp).imp_right fun h => ⟨f, h⟩
  | wait now => cases ho

lemma Operation.after_of_no_opening {op : Operation} (hw : w.Sane) (ho : op.opening w = none) :
    (op.after e w).Sane ∧ w.Keeps (op.after e w) := by
  cases op with
  | start versionId trigger entityId input =>
    cases hv : w.store.version? versionId with
    | none =>
      rw [after_eq (.inr ⟨_, Action.bind_of_error (startRun_missing hv)⟩)]
      exact ⟨hw, .refl⟩
    | some v =>
      rcases startRun_cases e trigger entityId input hv with ⟨f, _, hf⟩ | ⟨s, hs, _, _⟩
      · rw [after_eq (.inr ⟨f, Action.bind_of_error hf⟩)]
        exact ⟨⟨hw.rival, hw.compiled, hw.run, hw.unknown⟩, fun _ _ => rfl⟩
      · simp [opening, hv, hs] at ho
  | call id c => cases ho
  | wait now => exact ⟨⟨hw.rival, hw.compiled, hw.run, hw.unknown⟩, fun _ _ => rfl⟩

lemma Operation.after_cases (op : Operation) (hw : w.Sane) :
    (op.after e w).Sane ∧ (w.Keeps (op.after e w) ∨
      ∃ id queue w₀, op.opening w = some (id, queue, w₀) ∧
        ∃ q rest mid f, Reaches e id [queue] w₀ (q :: rest) mid ∧
          drain e.settings id q mid = .error f (op.after e w)) := by
  cases ho : op.opening w with
  | none =>
    obtain ⟨hw', hk⟩ := after_of_no_opening hw ho
    exact ⟨hw', .inl hk⟩
  | some x =>
    obtain ⟨id, queue, w₀⟩ := x
    obtain ⟨hw₀, hk₀⟩ := opening_keeps hw ho
    rcases advance_after ho with hadv | ⟨f, hadv⟩
    · obtain ⟨hw', hk⟩ := (advance_ok hadv).keeps hw₀
      exact ⟨hw', .inl (hk₀.trans hk)⟩
    · obtain ⟨hw', hk | hdrop⟩ := (advance_error hadv).cases hw₀
      · exact ⟨hw', .inl (hk₀.trans hk)⟩
      · exact ⟨hw', .inr ⟨id, queue, w₀, rfl, hdrop⟩⟩

lemma sane_afterOperations (ops : List (Engine × Operation)) (hw : w.Sane) :
    (afterOperations w ops).Sane := by
  induction ops generalizing w with
  | nil => exact hw
  | cons step rest ih => exact ih (step.2.after_cases (e := step.1) hw).1

lemma Bounded.of_keeps (hb : Bounded w) (hk : w.Keeps w') : Bounded w' := by
  intro i k
  have := hb i k
  have := hk i k
  omega

lemma matched_iff_of_keeps (hk : w.Keeps w') : w'.Matched ↔ w.Matched := by
  constructor
  · intro hm i k
    have := hm i k
    have := hk i k
    omega
  · intro hm i k
    have := hm i k
    have := hk i k
    omega

lemma matched_after_drain_error (hw : w.Sane) (hb : Bounded w)
    (hd : drain settings id queue w = .error f w') :
    Bounded w' ∧
      (w'.Matched ↔ w.Matched ∧ ∀ key, ¬ w.workerStarts id key < w'.workerStarts id key) := by
  obtain ⟨_, hreq, hle, hother⟩ := drain_error hw hd
  -- Requests stay as they were, and starts only grow: one that is ahead is ahead for good.
  refine ⟨fun i k => ?_, fun hm => ⟨fun i k => ?_, fun k => ?_⟩, fun ⟨hm, hno⟩ i k => ?_⟩
  · have := hb i k
    have := hreq i k
    have := hle i k
    omega
  · have := hb i k
    have := hm i k
    have := hreq i k
    have := hle i k
    omega
  · have := hb id k
    have := hm id k
    have := hreq id k
    omega
  · have := hm i k
    have := hreq i k
    by_cases hi : i = id
    · subst hi
      have := hno k
      have := hle i k
      omega
    · have := hother i k hi
      omega

lemma Operation.matched_after_iff (op : Operation) (hw : w.Sane) (hb : Bounded w) :
    Bounded (op.after e w) ∧ ((op.after e w).Matched ↔ w.Matched ∧ ¬ op.DropsRequest e w) := by
  have hdrop : op.DropsRequest e w → ¬ (op.after e w).Matched := by
    rintro ⟨id, queue, w₀, ho, q, rest, mid, f, hr, hd, key, hlt⟩ hm
    obtain ⟨hw₀, hk₀⟩ := opening_keeps hw ho
    obtain ⟨hmid, hk⟩ := hr.keeps hw₀
    have hbmid := hb.of_keeps (hk₀.trans hk)
    exact ((matched_after_drain_error hmid hbmid hd).2.mp hm).2 key hlt
  obtain ⟨_, hk | ⟨id, queue, w₀, ho, q, rest, mid, f, hr, hd⟩⟩ := op.after_cases (e := e) hw
  · refine ⟨hb.of_keeps hk, fun hm => ⟨(matched_iff_of_keeps hk).mp hm, fun hd => hdrop hd hm⟩, ?_⟩
    exact fun ⟨hm, _⟩ => (matched_iff_of_keeps hk).mpr hm
  · obtain ⟨hw₀, hk₀⟩ := opening_keeps hw ho
    obtain ⟨hmid, hk⟩ := hr.keeps hw₀
    have hkmid := hk₀.trans hk
    obtain ⟨hb', hiff⟩ := matched_after_drain_error hmid (hb.of_keeps hkmid) hd
    refine ⟨hb', fun hm => ?_, ?_⟩
    · exact ⟨(matched_iff_of_keeps hkmid).mp (hiff.mp hm).1, fun hd => hdrop hd hm⟩
    rintro ⟨hm, hno⟩
    refine hiff.mpr ⟨(matched_iff_of_keeps hkmid).mpr hm, fun key hlt => hno ?_⟩
    exact ⟨id, queue, w₀, ho, q, rest, mid, f, hr, hd, key, hlt⟩

lemma matched_afterOperations_iff (ops : List (Engine × Operation)) (hw : w.Sane) (hb : Bounded w) :
    (afterOperations w ops).Matched ↔ w.Matched ∧ NothingDropped w ops := by
  induction ops generalizing w with
  | nil => simp [afterOperations, NothingDropped]
  | cons step rest ih =>
    obtain ⟨e, op⟩ := step
    obtain ⟨hb', hiff⟩ := op.matched_after_iff (e := e) hw hb
    have hrest := ih (op.after_cases (e := e) hw).1 hb'
    rw [hiff, and_assoc] at hrest
    exact hrest

namespace Fresh

variable (hw : Fresh w)
include hw

lemma run?_eq (id : String) : w.store.run? id = none := by simp [Store.run?, hw.runs]

lemma sane : w.Sane where
  rival := hw.rival
  compiled {id v} hv := by
    obtain ⟨c, catalogue, hc⟩ := hw.compiled v (List.mem_of_find?_eq_some hv)
    exact Canvas.compile_wellFormed hc
  run {id r} hr := by
    rw [hw.run?_eq] at hr
    cases hr
  unknown _ := startsIn_eq_zero hw.events

lemma matched : w.Matched := by
  intro id key
  simp [World.requests, World.workerStarts, World.isWorkerKey, hw.sent, hw.run?_eq, requestsFor]

end Fresh

/-! Operations that are computed -/

lemma Operation.keeps_of_advanceFor {op : Operation} {fuel : Nat} {w₀ w' : World}
    (ho : op.opening w = some (id, queue, w₀))
    (h : e.advanceFor fuel id queue w₀ = some (.ok () w')) : ¬ op.DropsRequest e w := by
  rintro ⟨_, _, _, ho', q, rest, mid, f, hr, hd, _⟩
  simp only [ho, Option.some.injEq, Prod.mk.injEq] at ho'
  obtain ⟨rfl, rfl, rfl⟩ := ho'
  rcases advanceFor_cases h with ⟨qs, w₁, w₂, hok, hs, _⟩ | ⟨_, _, _, heq⟩
  · cases hr with
    | refl =>
      rw [hok] at hd
      cases hd
    | step hs' hrest =>
      rw [hs] at hs'
      obtain ⟨rfl, rfl⟩ := EStateM.Result.ok.inj hs'
      cases hrest
  · cases heq

lemma Operation.start_of_startFor {versionId : String} {trigger : Trigger}
    {entityId : Option String} {input : Option (Keyed Json)} {fuel : Nat} {w' : World}
    (h : e.startFor fuel versionId trigger entityId input w = some (id, w')) :
    (Operation.start versionId trigger entityId input).after e w = w' ∧
      ¬ (Operation.start versionId trigger entityId input).DropsRequest e w := by
  obtain ⟨⟨r, hr, _⟩, v, s, hv, hc, hadv, _⟩ := startFor_sound h
  constructor
  · simp [Operation.after, Operation.perform, Action.bind_apply, hr]
  · exact Operation.keeps_of_advanceFor (by simp [Operation.opening, hv, hc]) hadv

lemma Operation.call_of_returnFor {c : Call} {fuel : Nat} {w' : World}
    (h : e.returnFor fuel id c w = some w') :
    (Operation.call id c).after e w = w' ∧ ¬ (Operation.call id c).DropsRequest e w := by
  replace h := returnFor_eq h
  constructor
  · simp [Operation.after, Operation.perform, performFor_sound h]
  · unfold performFor at h
    split at h
    · rename_i w₁ hadv
      exact Operation.keeps_of_advanceFor rfl hadv
    · rename_i hne
      exact absurd h (hne w')

lemma Operation.after_of_failFor {c : Call} {fuel : Nat} {w' : World}
    (h : e.failFor fuel id c w = some w') : (Operation.call id c).after e w = w' := by
  obtain ⟨f, hf⟩ := failFor_eq h
  simp [Operation.after, Operation.perform, performFor_sound hf]

lemma afterOperations_of_playFor {calls : List Call} {fuel : Nat}
    (h : e.playFor fuel id calls w = some w') :
    afterOperations w (calls.map fun c => (e, .call id c)) = w' := by
  induction calls generalizing w with
  | nil => exact Option.some.inj h
  | cons c rest ih =>
    obtain ⟨w₁, hc, hrest⟩ := Option.bind_eq_some_iff.mp h
    obtain rfl := (Operation.call_of_returnFor hc).1
    exact ih hrest

lemma afterOperations_of_startFor {versionId : String} {trigger : Trigger}
    {entityId : Option String} {input : Option (Keyed Json)} {calls : List Call} {fuel : Nat}
    {w₁ : World} (h : e.startFor fuel versionId trigger entityId input w = some (id, w₁))
    (hplay : e.playFor fuel id calls w₁ = some w') :
    afterOperations w
      ((e, .start versionId trigger entityId input) :: calls.map fun c => (e, .call id c)) = w' := by
  obtain rfl := (Operation.start_of_startFor h).1
  exact afterOperations_of_playFor hplay

lemma fresh_ofCanvas {c : Canvas} (h : c.compile [] = .ok (.ofCanvas c [])) :
    Fresh (.ofCanvas c) where
  rival := rfl
  runs := rfl
  events := by simp [World.ofCanvas]
  sent := rfl
  compiled v hv := by
    obtain rfl := List.mem_singleton.mp hv
    exact ⟨c, [], h⟩

/-- Whatever operations there are, and whether they return or fail: the requests handed to the
dispatcher correspond to the starts of workers' keys if, and only if, no operation breaks off in a
step that has marked such a key as running. -/
theorem requests_match_starts_iff (hw : Fresh w) (ops : List (Engine × Operation)) :
    (afterOperations w ops).Matched ↔ NothingDropped w ops := by
  have hb : Bounded w := fun i k => (hw.matched i k).le
  rw [matched_afterOperations_iff ops hw.sane hb]
  exact and_iff_right hw.matched

def workersInFork : Canvas where
  nodes? := some [.bare "first" .worker [("webhook_url", .str "http://worker")],
    .bare "second" .worker [("webhook_url", .str "http://worker")],
    .bare "third" .worker [("webhook_url", .str "http://worker")]]
  edges? := some [.bare "first" "second" [], .bare "first" "third" [("text", "²")]]

theorem requests_of_fork : ∃ (id : String) (w : World),
    w = afterOperations (.ofCanvas workersInFork) [(accepting, .start "version" .byHand none none),
      (accepting, .call id (.callback "first" ⟨.completed, .obj [("text", .str "a")], none⟩))] ∧
    w.requests id "third" = 1 ∧ w.Matched := by
  have hw : Fresh (.ofCanvas workersInFork) :=
    fresh_ofCanvas (Canvas.compile_of_checks (by decide +kernel) (by decide +kernel)
      (by decide +kernel))
  obtain ⟨⟨id, w⟩, hstart, w', hcall, hthird⟩ := exists_of_any
    (x := accepting.startFor 20 "version" .byHand none none (.ofCanvas workersInFork))
    (P := fun x => ∃ w ∈ accepting.returnFor 20 x.1
      (.callback "first" ⟨.completed, .obj [("text", .str "a")], none⟩) x.2,
      w.requests x.1 "third" = 1) (by decide +kernel)
  obtain ⟨hw₁, hkeep⟩ := Operation.start_of_startFor hstart
  obtain ⟨hw₂, hkeep'⟩ := Operation.call_of_returnFor hcall
  refine ⟨id, _, rfl, ?_, (requests_match_starts_iff hw _).mpr ⟨hkeep, ?_⟩⟩
  · simp only [afterOperations, List.foldl_cons, List.foldl_nil, hw₁, hw₂, hthird]
  · rw [hw₁]
    exact ⟨hkeep', trivial⟩

theorem request_dropped_by_bad_index : ∃ (id : String) (w : World),
    Fresh (.ofCanvas workersInFork) ∧
    w = afterOperations (.ofCanvas workersInFork) [(accepting, .start "version" .byHand none none),
      (accepting, .call id (.callback "first" ⟨.completed, .arr [.str "a"], none⟩))] ∧
    w.workerStarts id "second" = 1 ∧ w.requests id "second" = 0 ∧ ¬ w.Matched := by
  -- A list has no such index, the call fails, and the other worker never gets its request.
  have hw : Fresh (.ofCanvas workersInFork) :=
    fresh_ofCanvas (Canvas.compile_of_checks (by decide +kernel) (by decide +kernel)
      (by decide +kernel))
  obtain ⟨⟨id, w⟩, hstart, w', hcall, hstarts, hrequests⟩ := exists_of_any
    (x := accepting.startFor 20 "version" .byHand none none (.ofCanvas workersInFork))
    (P := fun x => ∃ w ∈ accepting.failFor 20 x.1
      (.callback "first" ⟨.completed, .arr [.str "a"], none⟩) x.2,
      w.workerStarts x.1 "second" = 1 ∧ w.requests x.1 "second" = 0) (by decide +kernel)
  have hend : afterOperations (.ofCanvas workersInFork)
      [(accepting, .start "version" .byHand none none),
        (accepting, .call id (.callback "first" ⟨.completed, .arr [.str "a"], none⟩))] = w' := by
    simp only [afterOperations, List.foldl_cons, List.foldl_nil,
      (Operation.start_of_startFor hstart).1, Operation.after_of_failFor hcall]
  refine ⟨id, w', hw, hend.symm, hstarts, hrequests, fun hm => ?_⟩
  have hpair := hm id "second"
  rw [hstarts, hrequests] at hpair
  cases hpair

end Engine

end Workflow
