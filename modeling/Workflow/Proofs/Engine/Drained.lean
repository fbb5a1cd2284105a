import Workflow.Engine.Operations
import Workflow.Proofs.Engine.Handle

/-! Steps of a run: a queue is drained, its requests are delivered, and refusals follow. -/

namespace Workflow.Engine

open Run (Lawful)
open Store (holdsRevision unreadable)

inductive Drained (p : Plan) (now : Instant) :
    Run → List Message → List Write → List Request → Prop where
  | done {r} : Drained p now r [] [] []
  | next {r m rest ws o xs qs} (hm : Handled p now r m ws o) (hl : Lawful p now r ws)
      (h : Drained p now (r.afterAll now ws) (rest ++ o.messages) xs qs) :
      Drained p now r (m :: rest) (ws ++ xs) (o.requests ++ qs)

inductive Advanced (p : Plan) (now : Instant) : Run → List Message → List Write → Prop where
  | stopped {r queue} : Advanced p now r queue []
  | faulted {r m rest ws} (hrev : holdsRevision r.revision = true) (hm : Faulted p now r m ws)
      (hl : Lawful p now r ws) : Advanced p now r (m :: rest) ws
  | next {r m rest ws o xs} (hrev : holdsRevision r.revision = true)
      (hm : Handled p now r m ws o) (hl : Lawful p now r ws)
      (h : Advanced p now (r.afterAll now ws) (rest ++ o.messages) xs) :
      Advanced p now r (m :: rest) (ws ++ xs)

variable {e : Engine} {settings : Settings} {p : Plan} {now : Instant} {r : Run} {id : String}
  {w w' : World} {queue rest : List Message} {ws : List Write} {qs : List Request} {f : Failure}

namespace Drained

lemma lawful (h : Drained p now r queue ws qs) : Lawful p now r ws := by
  induction h with
  | done => exact .nil
  | next _ hl _ ih => exact hl.append ih

lemma preserves {J : Run → List Message → Prop} (hp : ∀ {s c}, c ∈ p.children s → c ∈ p.nodeIds)
    (hstep : ∀ {r m rest ws o}, J r (m :: rest) → r.Sound p → Handled p now r m ws o →
      Lawful p now r ws → J (r.afterAll now ws) (rest ++ o.messages))
    (h : Drained p now r queue ws qs) (hso : r.Sound p) (hj : J r queue) :
    J (r.afterAll now ws) [] := by
  induction h with
  | done => exact hj
  | next hm hl _ ih =>
    rw [Run.afterAll_append]
    exact ih (hso.afterAll hp hl) (hstep hj hso hm hl)

end Drained

lemma Advanced.lawful (h : Advanced p now r queue ws) : Lawful p now r ws := by
  induction h with
  | stopped => exact .nil
  | faulted _ _ hl => exact hl
  | next _ _ hl _ ih => exact hl.append ih

section Hosted

variable (hwf : p.WellFormed) (h : w.Hosts id p r) (hso : r.Sound p)
include hwf h hso

lemma step_ends (m : Message) (rest : List Message) :
    Ends id (step settings id m) w
      (fun ws o => holdsRevision r.revision = true ∧ Handled p w.now r m ws o ∧
        Lawful p w.now r ws)
      fun _ ws => Advanced p w.now r (m :: rest) ws := by
  obtain ⟨v, hv, rfl⟩ := h.version
  have hrun := World.run_eq h
  unfold step
  by_cases hrev : holdsRevision r.revision = true
  · rw [if_pos hrev] at hrun
    have hver : World.version r.versionId w = .ok v w := by
      simp [World.version, World.version?, Action.bind_apply, Action.map_apply, hv]
    refine .bind_read hrun (.bind_read hver ((handle_ends hwf h hso m).mono ?_ ?_))
    · exact fun ws o hm => ⟨hrev, hm⟩
    · exact fun f ws ⟨hm, hl⟩ => .faulted hrev hm hl
  · rw [if_neg hrev] at hrun
    exact .bind_error hrun .stopped

omit hwf h hso in
lemma drainWithin_next {m : Message} {o : Outcome} {requests : List Request}
    {x y : Action (List Request)} (hrev : holdsRevision r.revision = true)
    (hl : Lawful p w.now r ws) (hm : Handled p w.now r m ws o)
    (hx : x w = y (w.recordAll id ws))
    (hy : Ends id y (w.recordAll id ws)
      (fun xs qs => Advanced p (w.recordAll id ws).now (r.afterAll w.now ws) (rest ++ o.messages)
          xs ∧
        ∃ new, qs = requests ++ o.requests ++ new ∧
          Drained p (w.recordAll id ws).now (r.afterAll w.now ws) (rest ++ o.messages) xs new)
      fun _ xs =>
        Advanced p (w.recordAll id ws).now (r.afterAll w.now ws) (rest ++ o.messages) xs) :
    Ends id x w
      (fun xs qs => Advanced p w.now r (m :: rest) xs ∧
        ∃ new, qs = requests ++ new ∧ Drained p w.now r (m :: rest) xs new)
      fun _ xs => Advanced p w.now r (m :: rest) xs := by
  rw [World.now_recordAll] at hy
  rcases hy.cases with ⟨xs, qs, hok, hadv, new, rfl, hd⟩ | ⟨xs, f, herr, hadv⟩
  · refine Ends.of_ok (ws ++ xs) (by rw [hx, hok, World.recordAll_append])
      ⟨.next hrev hm hl hadv, o.requests ++ new, by simp, .next hm hl hd⟩
  · exact Ends.of_error (ws ++ xs) (by rw [hx, herr, World.recordAll_append])
      (.next hrev hm hl hadv)

lemma drainWithin_ends (budget : Effort) (waiting : Nat) (requests : List Request) :
    Ends id (drainWithin settings id budget waiting queue requests) w
      (fun ws qs => Advanced p w.now r queue ws ∧
        ∃ new, qs = requests ++ new ∧ Drained p w.now r queue ws new)
      fun _ ws => Advanced p w.now r queue ws := by
  -- The induction is that of the loop; the row stays sound, since the writes of a step are lawful.
  induction budget, waiting, queue, requests, w using drainWithin.induct settings id
    generalizing r with
  | case1 budget waiting requests w =>
    exact Ends.of_ok [] (by rw [drainWithin]; rfl) ⟨.stopped, [], by simp, .done⟩
  | case2 budget waiting requests w m rest f w' hm =>
    obtain ⟨ws, rfl, hadv⟩ := (step_ends hwf h hso m rest).error hm
    exact Ends.of_error ws (by rw [drainWithin, hm]) hadv
  | case3 budget waiting requests w m rest o w' hm queue' budget' hless =>
    rename_i ih
    obtain ⟨ws, rfl, hrev, hhandled, hlaw⟩ := (step_ends hwf h hso m rest).ok hm
    have hnext := ih (h.recordAll ws) (hso.afterAll hwf.child_mem hlaw)
    exact drainWithin_next hrev hlaw hhandled (by rw [drainWithin, hm]; exact dif_pos hless) hnext
  | case4 budget requests w m rest o w' hm queue' budget' =>
    rename_i hless
    obtain ⟨ws, rfl, hrev, hhandled, hlaw⟩ := (step_ends hwf h hso m rest).ok hm
    refine Ends.of_error ws (by rw [drainWithin, hm]; exact dif_neg hless) ?_
    simpa using Advanced.next hrev hhandled hlaw .stopped
  | case5 budget requests w m rest o w' hm queue' budget' hless waiting =>
    rename_i ih
    obtain ⟨ws, rfl, hrev, hhandled, hlaw⟩ := (step_ends hwf h hso m rest).ok hm
    have hnext := ih (h.recordAll ws) (hso.afterAll hwf.child_mem hlaw)
    exact drainWithin_next hrev hlaw hhandled (by rw [drainWithin, hm]; exact dif_neg hless) hnext

lemma drain_ends :
    Ends id (drain settings id queue) w
      (fun ws qs => Drained p w.now r queue ws qs ∧
        holdsRevision (r.afterAll w.now ws).revision = true ∧ Advanced p w.now r queue ws)
      fun _ ws => Advanced p w.now r queue ws := by
  unfold drain
  refine .bind_read Action.get_apply ?_
  refine (drainWithin_ends hwf h hso _ _ _).bind ?_ fun _ _ hadv => hadv
  rintro ws qs ⟨hadv, new, rfl, hdrained⟩
  have hlaw := hdrained.lawful
  have hq := h.recordAll ws
  obtain ⟨b, hfin, _⟩ := (hso.afterAll hwf.child_mem hlaw).isFinished_ok
  have hrun : World.run? id (w.recordAll id ws) =
      if holdsRevision (r.afterAll w.now ws).revision then
        .ok (some (r.afterAll w.now ws)) (w.recordAll id ws)
      else .error unreadable (w.recordAll id ws) := by
    simp only [World.run?, Action.bind_apply, Action.get_apply, Store.readRun_eq hq.row]
    split <;> rfl
  -- The row is read once more after the loop, which fails if its revision is out of range.
  by_cases hrev : holdsRevision (r.afterAll w.now ws).revision = true
  · rw [if_pos hrev] at hrun
    refine Ends.of_ok [] ?_ ⟨by simpa using hdrained, by simpa using hrev, by simpa using hadv⟩
    rw [Action.bind_of_ok hrun]
    exact (Action.bind_of_ok (Action.lift_ok (by rw [hfin]; rfl))).trans rfl
  · rw [if_neg hrev] at hrun
    exact .bind_error hrun (by simpa using hadv)

end Hosted

def sendings (e : Engine) (sent : List Sending) : List Request → List Sending
  | [] => []
  | q :: rest =>
    let s : Sending := ⟨q, e.dispatcher sent q⟩
    s :: sendings e (sent ++ [s]) rest

def handOver (e : Engine) (w : World) (qs : List Request) : World :=
  { w with sent := w.sent ++ e.sendings w.sent qs }

lemma map_request_sendings (e : Engine) (sent : List Sending) (qs : List Request) :
    (e.sendings sent qs).map (·.request) = qs := by
  induction qs generalizing sent with
  | nil => rfl
  | cons q rest ih => simp [sendings, ih]

lemma sendAll_eq : e.sendAll qs w = .ok (e.sendings w.sent qs) (e.handOver w qs) := by
  induction qs generalizing w with
  | nil => simp [sendAll, handOver, sendings]
  | cons q rest ih =>
    have hsend : e.send q w =
        .ok (e.dispatcher w.sent q) { w with sent := w.sent ++ [⟨q, e.dispatcher w.sent q⟩] } := rfl
    rw [sendAll, Action.bind_of_ok hsend, Action.bind_of_ok ih]
    simp [handOver, sendings]

lemma deliver_ok {failures : List (String × Callback)} (h : e.deliver qs w = .ok failures w') :
    w' = e.handOver w qs ∧ failures = (e.sendings w.sent qs).filterMap refusal? := by
  rw [deliver, Action.bind_of_ok sendAll_eq] at h
  cases hm : (e.sendings w.sent qs).findSome? mishap? with
  | some mishap =>
    rw [hm] at h
    cases h
  | none =>
    rw [hm] at h
    obtain ⟨rfl, rfl⟩ := EStateM.Result.ok.inj h
    exact ⟨rfl, rfl⟩

lemma nodeKey_of_refused {sent : List Sending} {failure : String × Callback}
    (h : failure ∈ (e.sendings sent qs).filterMap refusal?) : ∃ q ∈ qs, q.nodeKey = failure.1 := by
  obtain ⟨s, hs, hf⟩ := List.mem_filterMap.mp h
  refine ⟨s.request, ?_, ?_⟩
  · rw [← map_request_sendings e sent qs]
    exact List.mem_map_of_mem hs
  · unfold refusal? at hf
    split at hf
    · rw [← Option.some.inj hf]
    · cases hf

lemma deliver_error (h : e.deliver qs w = .error f w') : w' = e.handOver w qs := by
  rw [deliver, Action.bind_of_ok sendAll_eq] at h
  cases hm : (e.sendings w.sent qs).findSome? mishap? with
  | some mishap =>
    rw [hm] at h
    exact (EStateM.Result.error.inj h).2.symm
  | none =>
    rw [hm] at h
    cases h

lemma hosts_handOver (h : w.Hosts id p r) : (e.handOver w qs).Hosts id p r :=
  ⟨h.row, h.version, h.rival⟩

def agendaOf (failures : List (String × Callback)) : List (List Message) :=
  failures.map fun f => [.callback f.1 f.2]

/-- A call's queues: each is drained, its requests are delivered, and refusals join the queues that
are left. -/
inductive Reaches (e : Engine) (id : String) :
    List (List Message) → World → List (List Message) → World → Prop where
  | refl {agenda w} : Reaches e id agenda w agenda w
  | step {queue agenda w failures w₁ left w'}
      (hs : e.stepAndDeliver id queue w = .ok failures w₁)
      (h : Reaches e id (agenda ++ agendaOf failures) w₁ left w') :
      Reaches e id (queue :: agenda) w left w'

lemma settleWithin_ok {budget : Effort} {failures : List (String × Callback)}
    (h : e.settleWithin id budget failures w = .ok () w') :
    Reaches e id (agendaOf failures) w [] w' := by
  induction budget, failures, w using settleWithin.induct e id with
  | case1 budget w =>
    rw [settleWithin] at h
    obtain ⟨_, rfl⟩ := EStateM.Result.ok.inj h
    exact .refl
  | case2 budget w key c rest f w₁ hs =>
    rw [settleWithin, hs] at h
    cases h
  | case3 budget w key c rest more w₁ hs budget' hless =>
    rename_i ih
    rw [settleWithin, hs] at h
    have h' := ih ((dif_pos hless).symm.trans h)
    exact .step hs (by simpa [agendaOf] using h')
  | case4 budget w key c rest more w₁ hs budget' hless hmore =>
    rename_i ih
    rw [settleWithin, hs] at h
    have h' := ih ((if_pos hmore).symm.trans ((dif_neg hless).symm.trans h))
    obtain rfl := List.isEmpty_iff.mp hmore
    exact .step hs (by simpa [agendaOf] using h')
  | case5 budget w key c rest more w₁ hs budget' hless hmore =>
    rw [settleWithin, hs] at h
    dsimp only at h
    rw [dif_neg hless, if_neg hmore] at h
    cases h

def Breaks (e : Engine) (id : String) (agenda : List (List Message)) (w w' : World) : Prop :=
  ∃ left mid, Reaches e id agenda w left mid ∧
    (w' = mid ∨ ∃ queue rest f, left = queue :: rest ∧ e.stepAndDeliver id queue mid = .error f w')

lemma Breaks.step {queue : List Message} {agenda : List (List Message)} {w₁ : World}
    {failures : List (String × Callback)} (hs : e.stepAndDeliver id queue w = .ok failures w₁)
    (h : Breaks e id (agenda ++ agendaOf failures) w₁ w') : Breaks e id (queue :: agenda) w w' := by
  obtain ⟨left, mid, hr, hend⟩ := h
  exact ⟨left, mid, .step hs hr, hend⟩

lemma settleWithin_error {budget : Effort} {failures : List (String × Callback)}
    (h : e.settleWithin id budget failures w = .error f w') :
    Breaks e id (agendaOf failures) w w' := by
  induction budget, failures, w using settleWithin.induct e id with
  | case1 budget w =>
    rw [settleWithin] at h
    cases h
  | case2 budget w key c rest g w₁ hs =>
    rw [settleWithin, hs] at h
    obtain ⟨rfl, rfl⟩ := EStateM.Result.error.inj h
    exact ⟨_, w, .refl, .inr ⟨_, _, g, rfl, hs⟩⟩
  | case3 budget w key c rest more w₁ hs budget' hless =>
    rename_i ih
    rw [settleWithin, hs] at h
    have h' := ih ((dif_pos hless).symm.trans h)
    exact .step hs (by simpa [agendaOf] using h')
  | case4 budget w key c rest more w₁ hs budget' hless hmore =>
    rename_i ih
    rw [settleWithin, hs] at h
    have h' := ih ((if_pos hmore).symm.trans ((dif_neg hless).symm.trans h))
    obtain rfl := List.isEmpty_iff.mp hmore
    exact .step hs (by simpa [agendaOf] using h')
  | case5 budget w key c rest more w₁ hs budget' hless hmore =>
    rw [settleWithin, hs] at h
    dsimp only at h
    rw [dif_neg hless, if_neg hmore] at h
    obtain ⟨_, rfl⟩ := EStateM.Result.error.inj h
    exact .step hs ⟨_, w₁, .refl, .inl rfl⟩

lemma advance_ok (h : e.advance id queue w = .ok () w') : Reaches e id [queue] w [] w' := by
  obtain ⟨failures, w₁, hs, h⟩ := Action.bind_eq_ok.mp h
  exact .step hs (settleWithin_ok h)

lemma advance_error (h : e.advance id queue w = .error f w') : Breaks e id [queue] w w' := by
  rcases Action.bind_eq_error.mp h with hs | ⟨failures, w₁, hs, h⟩
  · exact ⟨_, w, .refl, .inr ⟨_, _, f, rfl, hs⟩⟩
  · exact .step hs (settleWithin_error h)

section Hosted

variable (hwf : p.WellFormed) (h : w.Hosts id p r) (hso : r.Sound p)
include hwf h hso

lemma stepAndDeliver_ok {failures : List (String × Callback)}
    (hs : e.stepAndDeliver id queue w = .ok failures w') :
    ∃ ws qs, Drained p w.now r queue ws qs ∧
      holdsRevision (r.afterAll w.now ws).revision = true ∧
      w' = e.handOver (w.recordAll id ws) qs ∧
      failures = (e.sendings w.sent qs).filterMap refusal? := by
  obtain ⟨qs, w₁, hd, hdel⟩ := Action.bind_eq_ok.mp hs
  obtain ⟨ws, rfl, hdrained, hrev, _⟩ := (drain_ends hwf h hso).ok hd
  obtain ⟨rfl, rfl⟩ := deliver_ok hdel
  exact ⟨ws, qs, hdrained, hrev, rfl, by rw [World.sent_recordAll]⟩

lemma stepAndDeliver_error (hs : e.stepAndDeliver id queue w = .error f w') :
    (∃ ws qs, Drained p w.now r queue ws qs ∧ w' = e.handOver (w.recordAll id ws) qs) ∨
      drain e.settings id queue w = .error f w' ∧
        ∃ ws, Lawful p w.now r ws ∧ w' = w.recordAll id ws := by
  rcases Action.bind_eq_error.mp hs with hd | ⟨qs, w₁, hd, hdel⟩
  · obtain ⟨ws, rfl, hadv⟩ := (drain_ends hwf h hso).error hd
    exact .inr ⟨hd, ws, hadv.lawful, rfl⟩
  · obtain ⟨ws, rfl, hdrained, _⟩ := (drain_ends hwf h hso).ok hd
    exact .inl ⟨ws, qs, hdrained, deliver_error hdel⟩

lemma stepAndDeliver_advances
    (hs : (∃ failures, e.stepAndDeliver id queue w = .ok failures w') ∨
      ∃ f, e.stepAndDeliver id queue w = .error f w') :
    ∃ ws qs, Advanced p w.now r queue ws ∧ w' = e.handOver (w.recordAll id ws) qs ∧
      (qs ≠ [] → Drained p w.now r queue ws qs ∧
        holdsRevision (r.afterAll w.now ws).revision = true) := by
  have hdelivered : ∀ {qs w₁}, drain e.settings id queue w = .ok qs w₁ →
      w' = e.handOver w₁ qs →
      ∃ ws qs, Advanced p w.now r queue ws ∧ w' = e.handOver (w.recordAll id ws) qs ∧
        (qs ≠ [] → Drained p w.now r queue ws qs ∧
          holdsRevision (r.afterAll w.now ws).revision = true) := by
    rintro qs w₁ hd rfl
    obtain ⟨ws, rfl, hdrained, hrev, hadv⟩ := (drain_ends hwf h hso).ok hd
    exact ⟨ws, qs, hadv, rfl, fun _ => ⟨hdrained, hrev⟩⟩
  rcases hs with ⟨failures, hs⟩ | ⟨f, hs⟩
  · obtain ⟨qs, w₁, hd, hdel⟩ := Action.bind_eq_ok.mp hs
    exact hdelivered hd (deliver_ok hdel).1
  · rcases Action.bind_eq_error.mp hs with hd | ⟨qs, w₁, hd, hdel⟩
    · obtain ⟨ws, rfl, hadv⟩ := (drain_ends hwf h hso).error hd
      exact ⟨ws, [], hadv, by simp only [handOver, sendings, List.append_nil], by simp⟩
    · exact hdelivered hd (deliver_error hdel)

end Hosted

end Workflow.Engine
