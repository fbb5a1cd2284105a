import Workflow.Proofs.Engine.Effort
import Workflow.Proofs.Engine.Ledger

/-! Every call ends: its queues are emptied message by message, or a message fails. The loops that
do so never give up, since what they count down is never used up before the queue is. -/

namespace Workflow.Engine

def close (id : String) (requests : List Request) : Action (List Request) := do
  match ← World.run? id with
  | none => return requests
  | some r =>
    let _ ← World.lift (Failure.ofMissing r.isFinished)
    return requests

/-- Handling the messages of a queue, first in, first out, comes to a result: none is left, or one
has failed. The requests are those collected so far. -/
inductive Drains (settings : Settings) (id : String) : List Message → List Request → World →
    EStateM.Result Failure World (List Request) → Prop where
  | emptied {requests w} : Drains settings id [] requests w (close id requests w)
  | failed {m rest requests w f w'} (hm : step settings id m w = .error f w') :
      Drains settings id (m :: rest) requests w (.error f w')
  | next {m rest requests w o w' result} (hm : step settings id m w = .ok o w')
      (h : Drains settings id (rest ++ o.messages) (requests ++ o.requests) w' result) :
      Drains settings id (m :: rest) requests w result

/-- Draining the queues of an agenda comes to a result: each is drained and its requests are
delivered, and a refusal becomes a queue at the end of the agenda; or that fails somewhere. -/
inductive Finishes (e : Engine) (id : String) :
    List (List Message) → World → EStateM.Result Failure World Unit → Prop where
  | done {w} : Finishes e id [] w (.ok () w)
  | undrained {queue agenda w f w'} (hd : Drains e.settings id queue [] w (.error f w')) :
      Finishes e id (queue :: agenda) w (.error f w')
  | undelivered {queue agenda w requests w₁ f w'}
      (hd : Drains e.settings id queue [] w (.ok requests w₁))
      (hs : e.deliver requests w₁ = .error f w') : Finishes e id (queue :: agenda) w (.error f w')
  | next {queue agenda w requests w₁ failures w₂ result}
      (hd : Drains e.settings id queue [] w (.ok requests w₁))
      (hs : e.deliver requests w₁ = .ok failures w₂)
      (h : Finishes e id (agenda ++ agendaOf failures) w₂ result) :
      Finishes e id (queue :: agenda) w result

variable {e : Engine} {settings : Settings} {p : Plan} {r : Run} {key id : String} {c : Callback}
  {m : Message} {o : Outcome} {f : Failure} {w w' : World} {queue rest : List Message}
  {requests : List Request} {agenda : List (List Message)}
  {failures more : List (String × Callback)}

lemma drain_eq : drain settings id queue w =
    (drainWithin settings id (effort w id queue) (patience w id queue) queue [] >>= close id) w :=
  rfl

lemma Drains.unique {result result' : EStateM.Result Failure World (List Request)}
    (h : Drains settings id queue requests w result)
    (h' : Drains settings id queue requests w result') : result = result' := by
  induction h with
  | emptied =>
    cases h'
    rfl
  | failed hm =>
    cases h' with
    | failed hm' =>
      obtain ⟨rfl, rfl⟩ := EStateM.Result.error.inj (hm.symm.trans hm')
      rfl
    | next hm' => cases hm.symm.trans hm'
  | next hm _ ih =>
    cases h' with
    | failed hm' => cases hm.symm.trans hm'
    | next hm' h' =>
      obtain ⟨rfl, rfl⟩ := EStateM.Result.ok.inj (hm.symm.trans hm')
      exact ih h'

lemma Finishes.unique {result result' : EStateM.Result Failure World Unit}
    (h : Finishes e id agenda w result) (h' : Finishes e id agenda w result') :
    result = result' := by
  induction h with
  | done =>
    cases h'
    rfl
  | undrained hd =>
    cases h' with
    | undrained hd' =>
      obtain ⟨rfl, rfl⟩ := EStateM.Result.error.inj (hd.unique hd')
      rfl
    | undelivered hd' => cases hd.unique hd'
    | next hd' => cases hd.unique hd'
  | undelivered hd hs =>
    cases h' with
    | undrained hd' => cases hd.unique hd'
    | undelivered hd' hs' =>
      obtain ⟨rfl, rfl⟩ := EStateM.Result.ok.inj (hd.unique hd')
      obtain ⟨rfl, rfl⟩ := EStateM.Result.error.inj (hs.symm.trans hs')
      rfl
    | next hd' hs' =>
      obtain ⟨rfl, rfl⟩ := EStateM.Result.ok.inj (hd.unique hd')
      cases hs.symm.trans hs'
  | next hd hs _ ih =>
    cases h' with
    | undrained hd' => cases hd.unique hd'
    | undelivered hd' hs' =>
      obtain ⟨rfl, rfl⟩ := EStateM.Result.ok.inj (hd.unique hd')
      cases hs.symm.trans hs'
    | next hd' hs' h' =>
      obtain ⟨rfl, rfl⟩ := EStateM.Result.ok.inj (hd.unique hd')
      obtain ⟨rfl, rfl⟩ := EStateM.Result.ok.inj (hs.symm.trans hs')
      exact ih h'

namespace Effort

def rank (a : Effort) : ℕ ×ₗ ℕ ×ₗ ℕ := toLex (a.commands, toLex (a.whole, a.moves))

lemma less_iff {a b : Effort} : a.Less b ↔ a.rank < b.rank := by
  simp only [Less, rank, Prod.Lex.toLex_lt_toLex]

end Effort

section Hosted

variable (h : w.Hosts id p r)
include h

lemma rank_effort :
    (effort w id queue).rank = toLex ((queue.filter Message.isCommand).length, left p r) := by
  obtain ⟨v, hv, rfl⟩ := h.version
  simp [Effort.rank, effort, left, h.row, hv, h.rival]

lemma load_le_patience (hwf : p.WellFormed) : load p r queue ≤ patience w id queue := by
  obtain ⟨v, hv, rfl⟩ := h.version
  simpa [patience, h.row, hv] using load_le hwf queue

lemma step_handles (hs : step settings id m w = .ok o w') : handle settings p r m w = .ok o w' := by
  obtain ⟨v, hv, rfl⟩ := h.version
  obtain ⟨q, w₁, hq, hrest⟩ := Action.bind_eq_ok.mp hs
  obtain ⟨rfl, hread⟩ := World.run_ok hq
  obtain rfl : q = r := by
    rw [Store.readRun_eq h.row] at hread
    split at hread
    · exact (Option.some.inj (Except.ok.inj hread)).symm
    · cases hread
  have hver : World.version q.versionId w₁ = .ok v w₁ := by
    simp [World.version, World.version?, Action.bind_apply, Action.map_apply, hv]
  rwa [Action.bind_of_ok hver] at hrest

variable (hwf : p.WellFormed) (hso : r.Sound p)
include hwf hso

lemma step_lowers (rest : List Message) (hs : step settings id m w = .ok o w') :
    ∃ ws, w' = w.recordAll id ws ∧ Run.Lawful p w.now r ws ∧
      ((effort w' id (rest ++ o.messages)).rank < (effort w id (m :: rest)).rank ∨
        ws = [] ∧ (effort w' id (rest ++ o.messages)).rank = (effort w id (m :: rest)).rank ∧
          load p r (rest ++ o.messages) < load p r (m :: rest)) := by
  obtain ⟨ws, rfl, _, hm, hl⟩ := (step_ends hwf h hso m rest).ok hs
  refine ⟨ws, rfl, hl, ?_⟩
  have hnone : o.messages.filter Message.isCommand = [] :=
    List.filter_eq_nil_iff.mpr fun a ha => by simp [hm.no_command a ha]
  rw [rank_effort h, rank_effort (h.recordAll ws), List.filter_append, hnone, List.append_nil]
  cases hc : m.isCommand with
  | true =>
    -- A command leaves the queue, and none comes in.
    refine .inl (Prod.Lex.toLex_lt_toLex.mpr (.inl ?_))
    simp [hc]
  | false =>
    rw [List.filter_cons_of_neg (by simp [hc])]
    rcases hm.lowers hwf hso hc with hlt | ⟨rfl, hunspent⟩
    · exact .inl (Prod.Lex.toLex_lt_toLex.mpr (.inr ⟨rfl, hlt⟩))
    · refine .inr ⟨rfl, rfl, ?_⟩
      have hload := hunspent.load_lt hwf hc fun key hwalk => by
        subst hwalk
        exact length_walk hso (step_handles h hs)
      simp only [load_append, load_cons]
      omega

lemma drainWithin_drains {budget : Effort} {waiting : ℕ}
    (hb : budget.rank = (effort w id queue).rank) (hl : load p r queue ≤ waiting) :
    Drains settings id queue requests w
      ((drainWithin settings id budget waiting queue requests >>= close id) w) := by
  -- While the budget is what is left, and the load of the queue is not more than is waited for, the
  -- loop does not give up.
  induction budget, waiting, queue, requests, w using drainWithin.induct settings id
    generalizing r with
  | case1 budget waiting requests w =>
    rw [Action.bind_of_ok (by rw [drainWithin])]
    exact .emptied
  | case2 budget waiting requests w m rest f w' hm =>
    rw [Action.bind_of_error (by rw [drainWithin, hm])]
    exact .failed hm
  | case3 budget waiting requests w m rest o w' hm queue' budget' hless =>
    rename_i ih
    obtain ⟨ws, rfl, hlaw, _⟩ := step_lowers h hwf hso rest hm
    have hnext := h.recordAll ws
    have hrest := ih hnext (hso.afterAll hwf.child_mem hlaw) rfl (load_le_patience hnext hwf)
    refine .next hm ?_
    rwa [Action.bind_congr (close id) (by rw [drainWithin, hm]; exact dif_pos hless)]
  | case4 budget requests w m rest o w' hm queue' budget' =>
    rename_i hless
    obtain ⟨ws, rfl, hlaw, hlt | ⟨rfl, _, hload⟩⟩ := step_lowers h hwf hso rest hm
    · exact absurd (Effort.less_iff.mpr (hlt.trans_eq hb.symm)) hless
    · exact absurd (hload.trans_le hl) (Nat.not_lt_zero _)
  | case5 budget requests w m rest o w' hm queue' budget' hless waiting =>
    rename_i ih
    obtain ⟨ws, rfl, hlaw, hlt | ⟨rfl, heq, hload⟩⟩ := step_lowers h hwf hso rest hm
    · exact absurd (Effort.less_iff.mpr (hlt.trans_eq hb.symm)) hless
    · have hrest := ih h hso (hb.trans heq.symm) (Nat.le_of_lt_succ (hload.trans_le hl))
      refine .next hm ?_
      rwa [Action.bind_congr (close id) (by rw [drainWithin, hm]; exact dif_neg hless)]

end Hosted

section Sane

variable (hw : w.Sane)
include hw

lemma drain_drains (settings : Settings) (id : String) (queue : List Message) :
    Drains settings id queue [] w (drain settings id queue w) := by
  rw [drain_eq]
  cases hr : w.store.run? id with
  | some r =>
    obtain ⟨v, hwf, h, hso, _⟩ := hw.hosts hr
    exact drainWithin_drains h hwf hso rfl (load_le_patience h hwf)
  | none =>
    -- Without a row the first message fails.
    cases queue with
    | nil =>
      rw [Action.bind_of_ok (by rw [drainWithin])]
      exact .emptied
    | cons m rest =>
      rw [Action.bind_of_error (by rw [drainWithin, step_missing hr])]
      exact .failed (step_missing hr)

lemma Finishes.failed (hs : e.stepAndDeliver id queue w = .error f w') :
    Finishes e id (queue :: agenda) w (.error f w') := by
  have hdrains := drain_drains hw e.settings id queue
  rcases Action.bind_eq_error.mp hs with hd | ⟨requests, w₁, hd, hdel⟩
  · exact .undrained (hd ▸ hdrains)
  · exact .undelivered (hd ▸ hdrains) hdel

lemma Finishes.step {result : EStateM.Result Failure World Unit}
    (hs : e.stepAndDeliver id queue w = .ok failures w')
    (h : Finishes e id (agenda ++ agendaOf failures) w' result) :
    Finishes e id (queue :: agenda) w result := by
  have hdrains := drain_drains hw e.settings id queue
  obtain ⟨requests, w₁, hd, hdel⟩ := Action.bind_eq_ok.mp hs
  exact .next (hd ▸ hdrains) hdel h

lemma failure_lowers (hs : e.stepAndDeliver id [.callback key c] w = .ok more w') :
    (effort w' id []).rank < (effort w id []).rank ∨
      (effort w' id []).rank = (effort w id []).rank ∧ more = [] := by
  cases hr : w.store.run? id with
  | none =>
    obtain ⟨requests, w₁, hd, _⟩ := Action.bind_eq_ok.mp hs
    rw [drain_missing hr] at hd
    cases hd
  | some r =>
    obtain ⟨v, hwf, h, hso, _⟩ := hw.hosts hr
    obtain ⟨ws, requests, hd, _, rfl, rfl⟩ := stepAndDeliver_ok hwf h hso hs
    rw [rank_effort h, rank_effort (hosts_handOver (h.recordAll ws))]
    cases hd with
    | @next _ _ _ ws o xs qs hm hl hd =>
      rcases hm.report_lowers with ⟨hlt, rfl⟩ | ⟨rfl, rfl⟩
      · -- The walk that follows a report makes no more to do.
        have hle := hd.left_le hwf (hso.afterAll hwf.child_mem hl)
          (by simp [Outcome.walk, Message.isCommand])
        rw [Run.afterAll_append]
        exact .inl (Prod.Lex.toLex_lt_toLex.mpr (.inr ⟨rfl, hle.trans_lt hlt⟩))
      · cases hd
        exact .inr ⟨rfl, rfl⟩

lemma settleWithin_finishes {budget : Effort} (hb : budget.rank = (effort w id []).rank) :
    Finishes e id (agendaOf failures) w (settleWithin e id budget failures w) := by
  induction budget, failures, w using settleWithin.induct e id with
  | case1 budget w =>
    rw [settleWithin]
    exact .done
  | case2 budget w key c rest f w₁ hs =>
    rw [settleWithin, hs]
    exact .failed hw hs
  | case3 budget w key c rest more w₁ hs budget' hless =>
    rename_i ih
    have heq : settleWithin e id budget ((key, c) :: rest) w =
        settleWithin e id budget' (rest ++ more) w₁ := by
      rw [settleWithin, hs]
      exact dif_pos hless
    rw [heq]
    refine .step hw hs ?_
    simpa [agendaOf] using ih (stepAndDeliver_keeps hw hs).1 rfl
  | case4 budget w key c rest more w₁ hs budget' hless hmore =>
    rename_i ih
    obtain rfl := List.isEmpty_iff.mp hmore
    have heq : settleWithin e id budget ((key, c) :: rest) w =
        settleWithin e id budget rest w₁ := by
      rw [settleWithin, hs]
      exact dif_neg hless
    rcases failure_lowers hw hs with hlt | ⟨hrank, _⟩
    · exact absurd (Effort.less_iff.mpr (hlt.trans_eq hb.symm)) hless
    · rw [heq]
      refine .step hw hs ?_
      simpa [agendaOf] using ih (stepAndDeliver_keeps hw hs).1 (hb.trans hrank.symm)
  | case5 budget w key c rest more w₁ hs budget' hless hmore =>
    rcases failure_lowers hw hs with hlt | ⟨_, rfl⟩
    · exact absurd (Effort.less_iff.mpr (hlt.trans_eq hb.symm)) hless
    · exact absurd rfl hmore

lemma advance_finishes (e : Engine) (id : String) (queue : List Message) :
    Finishes e id [queue] w (e.advance id queue w) := by
  cases hs : e.stepAndDeliver id queue w with
  | error f w' =>
    rw [advance, Action.bind_of_error hs]
    exact .failed hw hs
  | ok failures w' =>
    rw [advance, Action.bind_of_ok hs]
    exact .step hw hs (settleWithin_finishes (stepAndDeliver_keeps hw hs).1 rfl)

end Sane

/-- Whatever operations there were before, and whatever the queue and the dispatcher: the loops come
to an end, which is the one that they come to when nothing is counted down. -/
theorem operations_end (hw : Fresh w) (ops : List (Engine × Operation)) (e : Engine) :
    (∀ id queue result, Drains e.settings id queue [] (afterOperations w ops) result ↔
      drain e.settings id queue (afterOperations w ops) = result) ∧
    (∀ id queue result, Finishes e id [queue] (afterOperations w ops) result ↔
      e.advance id queue (afterOperations w ops) = result) ∧
    ∀ (op : Operation) id queue w₀, op.opening (afterOperations w ops) = some (id, queue, w₀) →
      Finishes e id [queue] w₀ (.ok () (op.after e (afterOperations w ops))) ∨
        ∃ f, Finishes e id [queue] w₀ (.error f (op.after e (afterOperations w ops))) := by
  have hsane := sane_afterOperations ops hw.sane
  refine ⟨fun id queue result => ⟨fun h => (drain_drains hsane e.settings id queue).unique h, ?_⟩,
    fun id queue result => ⟨fun h => (advance_finishes hsane e id queue).unique h, ?_⟩, ?_⟩
  · rintro rfl
    exact drain_drains hsane e.settings id queue
  · rintro rfl
    exact advance_finishes hsane e id queue
  · intro op id queue w₀ ho
    have hfinishes := advance_finishes (Operation.opening_keeps hsane ho).1 e id queue
    rcases Operation.advance_after (e := e) ho with hadv | ⟨f, hadv⟩
    · exact .inl (hadv ▸ hfinishes)
    · exact .inr ⟨f, hadv ▸ hfinishes⟩

def workersOfNoItems : Canvas where
  nodes? := some [.bare "split" .splitter [("array_path", .str "items")],
    .bare "each" .worker [("webhook_url", .str "http://worker")], .bare "join" .collector []]
  edges? := some [.bare "split" "each" [], .bare "each" "join" []]

theorem hollow_fired_ends : ∃ (id : String) (w : World) (r : Run),
    Fresh (.ofCanvas workersOfNoItems) ∧
    w = afterOperations (.ofCanvas workersOfNoItems)
      [(accepting, .start "version" .byHand none (some [("items", .arr [])]))] ∧
    w.store.run? id = some r ∧ r.Hollow "each" ∧ r.Has "join" .completed ∧
    Finishes accepting id [[.fire "each"]] w (.ok () w) := by
  -- A node that was fanned out over nothing is fired once more: it walks, its collector is fired,
  -- and that is the end, with nothing written.
  have hw : Fresh (.ofCanvas workersOfNoItems) :=
    fresh_ofCanvas (Canvas.compile_of_checks (by decide +kernel) (by decide +kernel)
      (by decide +kernel))
  obtain ⟨⟨id, w⟩, hstart, r, hr, hhollow, hjoin, hcall⟩ := exists_of_any
    (x := accepting.startFor 20 "version" .byHand none (some [("items", .arr [])])
      (.ofCanvas workersOfNoItems))
    (P := fun x => ∃ r ∈ x.2.store.run? x.1, r.Hollow "each" ∧ r.Has "join" .completed ∧
      accepting.returnFor 20 x.1 (.fire "each") x.2 = some x.2) (by decide +kernel)
  have hend : afterOperations (.ofCanvas workersOfNoItems)
      [(accepting, .start "version" .byHand none (some [("items", .arr [])]))] = w :=
    (Operation.start_of_startFor hstart).1
  have hfire := perform_ok (performFor_sound (returnFor_eq hcall))
  have hfinishes := ((operations_end hw _ accepting).2.1 id [.fire "each"] _).mpr (hend ▸ hfire)
  exact ⟨id, w, r, hw, hend.symm, hr, hhollow, hjoin, hend ▸ hfinishes⟩

end Workflow.Engine
