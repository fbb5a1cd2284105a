import Workflow.Proofs.Engine.Start

/-! Handling a message: the writes that it makes, and what it brings about. -/

namespace Workflow.Engine

open Run (Lawful)

inductive FiredAll (p : Plan) (now : Instant) (snap : Run) (n : PlanNode) (mapping : Mapping) :
    Run → List String → List Write → Outcome → Prop where
  | nil {r} : FiredAll p now snap n mapping r [] [] .nothing
  | passed {r key rest ws o} (hs : ¬ snap.Has key .pending)
      (h : FiredAll p now snap n mapping r rest ws o) :
      FiredAll p now snap n mapping r (key :: rest) ws o
  | fired {r key rest s input ws ws' o o'} (hs : snap.state? key = some s)
      (hp : s.status = .pending) (hi : Mapping.instanceInput s.output mapping = .ok input)
      (hw : Started p now r n key input .pending ws o)
      (h : FiredAll p now snap n mapping (r.afterAll now ws) rest ws' o') :
      FiredAll p now snap n mapping r (key :: rest) (ws ++ ws') (o.append o')

def movementNotes (now : Instant) (q : Run) (n : PlanNode) (c : Callback) : List Write :=
  match q.entityId, movementAfter n c with
  | some entity, some a => [.note (entityMoved now q entity n a c.result)]
  | _, _ => []

inductive Handled (p : Plan) (now : Instant) (r : Run) : Message → List Write → Outcome → Prop where
  | walked {key l} (hn : r.template key ∈ p.nodeIds)
      (hl : ∀ n, n ∈ l ↔ n ∈ p.children (r.template key) ∧ r.Ready p n) :
      Handled p now r (.walk key) [] (.fire l)
  | strayed {key} (hn : r.template key ∉ p.nodeIds) : Handled p now r (.walk key) [] .nothing
  | missing {id} (hn : id ∉ p.nodeIds) : Handled p now r (.fire id) [] .nothing
  | hollow {id} (hn : id ∈ p.nodeIds) (hh : r.Hollow id) : Handled p now r (.fire id) [] (.walk id)
  | instances {id n mapping ws o} (hn : p.node? id = some n) (hi : r.hasInstances id = true)
      (hne : ¬ r.Hollow id) (hm : itemMapping p id (p.parents id) = .ok mapping)
      (hf : FiredAll p now r n mapping r (instanceTexts r id) ws o) :
      Handled p now r (.fire id) ws o
  | whole {id n input ws o} (hn : p.node? id = some n) (hi : r.hasInstances id = false)
      (hin : nodeInput p r n = .ok input) (hs : Started p now r n id input .pending ws o) :
      Handled p now r (.fire id) ws o
  | ignored {key c} (hs : ¬ r.Has key .running) : Handled p now r (.callback key c) [] .nothing
  | reported {key c notes} (hs : r.Has key .running)
      (hnotes : ∀ x ∈ notes, ∃ e : Event, x = .note e ∧ e.kind = .entityMoved)
      (hmoved : ∃ n, p.node? (r.template key) = some n ∧
        notes = movementNotes now (r.update now key (reported c)) n c) :
      Handled p now r (.callback key c) (.move key (reported c) :: notes) (.walk key)
  | resumed {key x} (hs : r.Has key .waitingForUser) :
      Handled p now r (.resume key x)
        [.move key (.toStatus .running), .move key (.finish .completed x)] (.walk key)
  | retried {key n s input ws o} (hs : r.state? key = some s) (hst : s.status = .failed)
      (hn : p.node? (r.template key) = some n) (hin : inputFor p r n key s = .ok input)
      (hw : Started p now r n key input .failed ws o) : Handled p now r (.retry key) ws o
  | reconciled {levels l} (hl : p.levels? = some levels)
      (hf : ∀ n, n ∈ l ↔ n ∈ levels.flatten ∧ r.Open n ∧ r.Ready p n) :
      Handled p now r .reconcile [] (.fire l)

inductive FiredSome (p : Plan) (now : Instant) (snap : Run) (n : PlanNode) (mapping : Mapping) :
    Run → List String → List Write → Prop where
  | stopped {r l} : FiredSome p now snap n mapping r l []
  | interrupted {r key rest ws} (h : Interrupted now r n key .pending ws) :
      FiredSome p now snap n mapping r (key :: rest) ws
  | passed {r key rest ws} (h : FiredSome p now snap n mapping r rest ws) :
      FiredSome p now snap n mapping r (key :: rest) ws
  | fired {r key rest s input ws ws' o} (hs : snap.state? key = some s)
      (hi : Mapping.instanceInput s.output mapping = .ok input)
      (hw : Started p now r n key input .pending ws o)
      (h : FiredSome p now snap n mapping (r.afterAll now ws) rest ws') :
      FiredSome p now snap n mapping r (key :: rest) (ws ++ ws')

inductive Faulted (p : Plan) (now : Instant) (r : Run) : Message → List Write → Prop where
  | unwritten {m} : Faulted p now r m []
  | instances {id n mapping ws} (hn : p.node? id = some n) (hi : r.hasInstances id = true)
      (hm : itemMapping p id (p.parents id) = .ok mapping)
      (hf : FiredSome p now r n mapping r (instanceTexts r id) ws) : Faulted p now r (.fire id) ws
  | whole {id n ws} (hn : p.node? id = some n) (hi : r.hasInstances id = false)
      (hs : Interrupted now r n id .pending ws) : Faulted p now r (.fire id) ws
  | resumed {key x} (hs : r.Has key .waitingForUser)
      (hrev : Store.holdsRevision (r.update now key (.toStatus .running)).revision = false) :
      Faulted p now r (.resume key x) [.move key (.toStatus .running)]
  | retried {key n ws} (hn : p.node? (r.template key) = some n)
      (hs : Interrupted now r n key .failed ws) : Faulted p now r (.retry key) ws

variable {p : Plan} {now : Instant} {r : Run} {n : PlanNode} {key id : String} {input : Json}
  {source : Status} {ws : List Write} {o : Outcome} {w : World} {settings : Settings}

lemma inputFor_instance {k : InstanceKey} {s : NodeState} (hso : r.Sound p) (hk : r.Registered k)
    (h : inputFor p r n k.text s = .ok input) :
    ∃ mapping, itemMapping p k.template (p.parents k.template) = .ok mapping ∧
      Mapping.instanceInput s.output mapping = .ok input := by
  rw [inputFor, (Run.instance?_eq_some_iff hso.instances_nodup).mpr ⟨hk, rfl⟩] at h
  cases hm : itemMapping p k.template (p.parents k.template) with
  | error f =>
    simp only [hm] at h
    cases h
  | ok mapping =>
    simp only [hm] at h
    refine ⟨mapping, rfl, ?_⟩
    cases hi : Mapping.instanceInput s.output mapping with
    | error b => simp [hi, bind, Except.bind, Failure.ofPath, Except.mapError] at h
    | ok x => simpa [hi, bind, Except.bind, Failure.ofPath, Except.mapError] using h

namespace Worked

lemma lawful (h : Worked p r n key input ws o) (hs : r.Has key .running)
    (hn : p.node? (r.template key) = some n) : Lawful p now r ws := by
  obtain ⟨s, hs, hr⟩ := hs
  cases h with
  | sent => exact .nil
  | parked hk => exact .one (.park input hs hr hn hk)
  | unsplit | uncollected => exact .one (.fail _ hs hr)
  | rejected => exact .one (.fail _ hs hr)
  | whole | collected => exact .one (.complete _ hs hr)
  | split hk hi ht hsp =>
    exact .one (.spawn _ hs hr hn hk (fun t ht => (Plan.mem_fannedOut.mp ht).1) hsp)

end Worked

lemma has_claimed (now : Instant) (hs : r.Has key source) :
    (r.update now key (.toStatus .running)).Has key .running := by
  obtain ⟨s, hs, -⟩ := hs
  rw [Run.update_eq hs]
  exact ⟨_, Run.state?_moved.trans (if_pos rfl), rfl⟩

lemma allowed_claim (hs : r.Has key source) (hc : source.canBecome .running = true) :
    r.Allowed p (.move key (.toStatus .running)) := by
  obtain ⟨s, hs, rfl⟩ := hs
  exact .claim hs hc

namespace Started

lemma lawful (h : Started p now r n key input source ws o)
    (hn : p.node? (r.template key) = some n) (hc : source.canBecome .running = true) :
    Lawful p now r ws := by
  cases h with
  | skipped => exact .nil
  | worked hs hw =>
    exact .cons (allowed_claim hs hc)
      (hw.lawful (has_claimed _ hs) (by rwa [Run.Sound.template_update]))

end Started

namespace Interrupted

lemma lawful (h : Interrupted now r n key source ws) (hc : source.canBecome .running = true) :
    Lawful p now r ws := by
  cases h with
  | unclaimed => exact .nil
  | claimed hs => exact .one (allowed_claim hs hc)

end Interrupted

lemma FiredSome.induct {P : Run → List Write → Prop} {snap : Run} {mapping : Mapping}
    {l : List String} {t : String} (h : FiredSome p now snap n mapping r l ws)
    (hwf : p.WellFormed) (hso : r.Sound p) (hn : p.node? t = some n)
    (hl : ∀ k ∈ l, k ∈ Keyed.keys r.states ∧ r.template k = t) (stopped : ∀ r, P r [])
    (interrupted : ∀ {r key ws}, Interrupted now r n key .pending ws → P r ws)
    (fired : ∀ {r key input ws xs o}, r.Sound p → p.node? (r.template key) = some n →
      Started p now r n key input .pending ws o → P (r.afterAll now ws) xs → P r (ws ++ xs)) :
    P r ws := by
  induction h with
  | stopped => exact stopped _
  | interrupted h => exact interrupted h
  | passed _ ih => exact ih hso (List.forall_mem_cons.mp hl).2
  | @fired r key rest s input ws ws' o hs hi hw _ ih =>
    obtain ⟨⟨_, ht⟩, hrest⟩ := List.forall_mem_cons.mp hl
    have hn' := ht ▸ hn
    have hlaw : Lawful p now r ws := hw.lawful hn' rfl
    exact fired hso hn' hw (ih (hso.afterAll hwf.child_mem hlaw)
      (hso.forall_afterAll hwf.child_mem hlaw hrest))

lemma movementNotes_kind {q : Run} {c : Callback} :
    ∀ x ∈ movementNotes now q n c, ∃ e : Event, x = .note e ∧ e.kind = .entityMoved := by
  intro x hx
  unfold movementNotes at hx
  split at hx
  · exact ⟨_, List.mem_singleton.mp hx, rfl⟩
  · cases hx

lemma logMovement_ends {q : Run} {c : Callback} :
    Ends id (logMovement q n c) w (fun ws _ => ws = movementNotes w.now q n c)
      fun _ _ => False := by
  unfold logMovement
  split
  · rename_i entity a he ha
    exact Ends.of_ok [.note (entityMoved w.now q entity n a c.result)] rfl
      (by simp only [movementNotes, he, ha])
  · rename_i hno
    refine Ends.pure ?_
    unfold movementNotes
    split
    · rename_i entity a he ha
      exact absurd ha (hno entity a he)
    · rfl

lemma lawful_notes {q : Run} (h : ∀ x ∈ ws, ∃ e : Event, x = .note e ∧ e.kind = .entityMoved) :
    Lawful p now q ws := by
  induction ws with
  | nil => exact .nil
  | cons x rest ih =>
    obtain ⟨⟨e, rfl, he⟩, hrest⟩ := List.forall_mem_cons.mp h
    exact .cons (.note he) (ih hrest)

lemma reported_status (c : Callback) :
    (reported c).status = some ((reported c).status.getD .failed) ∧
      Status.running.canBecome ((reported c).status.getD .failed) = true := by
  unfold reported
  cases c.result <;> exact ⟨rfl, rfl⟩

lemma allowed_reported {c : Callback} (hs : r.Has key .running) :
    r.Allowed p (.move key (reported c)) := by
  obtain ⟨s, hs, hr⟩ := hs
  unfold reported
  cases c.result with
  | completed => exact .complete c.output hs hr
  | failed => exact .fail c.errorText hs hr

section Hosted

variable (hwf : p.WellFormed) (h : w.Hosts id p r) (hso : r.Sound p)

include hwf in
lemma node_template (hso : r.Sound p) (hk : key ∈ Keyed.keys r.states) :
    ∃ n, p.node? (r.template key) = some n ∧ n.id = r.template key ∧
      n.kind.isPresentation = false := by
  obtain ⟨n, hn⟩ := Plan.mem_nodeIds_iff.mp (hso.template_mem hk)
  exact ⟨n, hn, hwf.id_eq hn, hwf.executable hn⟩

include hwf h hso

lemma fireInstances_ends {snap : Run} {mapping : Mapping} {t : String} (hid : snap.id = id)
    (hn : p.node? t = some n) {l : List String}
    (hl : ∀ k ∈ l, k ∈ Keyed.keys r.states ∧ r.template k = t) :
    Ends id (fireInstances settings p snap n mapping l) w
      (fun ws o => FiredAll p w.now snap n mapping r l ws o ∧ Lawful p w.now r ws)
      fun _ ws => FiredSome p w.now snap n mapping r l ws ∧ Lawful p w.now r ws := by
  -- `snap` stays while `r` moves on: statuses and items are those from before the first instance.
  induction l generalizing r w with
  | nil => exact Ends.pure ⟨.nil, .nil⟩
  | cons key rest ih =>
    obtain ⟨⟨hkey, ht⟩, hrest⟩ := List.forall_mem_cons.mp hl
    cases hs : snap.state? key with
    | none =>
      have herr : Failure.ofMissing (snap.stateAt key) = .error (.noEntry key) := by
        simp [Run.stateAt, hs, Failure.ofMissing, Except.mapError]
      exact .bind_lift_error herr ⟨.stopped, .nil⟩
    | some s =>
      have hat : Failure.ofMissing (snap.stateAt key) = .ok s := by
        rw [Run.stateAt_of_state? hs]
        rfl
      refine .bind_lift hat ?_
      by_cases hp : s.status = .pending
      · have hkind := hwf.executable hn
        obtain ⟨sr, hsr⟩ := Run.exists_state hkey
        rw [if_pos hp]
        cases hin : Mapping.instanceInput s.output mapping with
        | error b => exact .bind_lift_error rfl ⟨.stopped, .nil⟩
        | ok input =>
          refine .bind_lift rfl ?_
          refine (runHandler_ends hwf h hso hkind hsr rfl hid).bind ?_ fun f ws hw =>
            ⟨.interrupted hw, hw.lawful rfl⟩
          intro ws o hw
          have hlaw : Lawful p w.now r ws := hw.lawful (by rwa [ht]) rfl
          have hnext := ih (h.recordAll ws) (hso.afterAll hwf.child_mem hlaw)
            (hso.forall_afterAll hwf.child_mem hlaw hrest)
          rw [World.now_recordAll] at hnext
          refine hnext.bind ?_ fun f xs hx => ⟨.fired hs hin hw hx.1, hlaw.append hx.2⟩
          rintro xs o' ⟨hfired, hx⟩
          exact Ends.pure ⟨by simpa using .fired hs hp hin hw hfired, by simpa using hlaw.append hx⟩
      · rw [if_neg hp]
        refine .bind_read (Action.pure_apply _) ?_
        refine (ih h hso hrest).bind ?_ fun f xs hx => ⟨.passed hx.1, hx.2⟩
        rintro xs o ⟨hfired, hx⟩
        refine Ends.pure ⟨?_, by simpa using hx⟩
        simpa [Outcome.append, Outcome.nothing] using
          FiredAll.passed (by rwa [Run.has_iff hs]) hfired

omit hwf h in
lemma walk_ends :
    Ends id (walk p r key) w (fun ws o => Handled p w.now r (.walk key) ws o ∧ Lawful p w.now r ws)
      fun _ ws => Faulted p w.now r (.walk key) ws ∧ Lawful p w.now r ws := by
  unfold walk
  dsimp only
  split
  · rename_i hn
    refine Ends.pure ⟨.strayed fun hmem => ?_, .nil⟩
    obtain ⟨n, hn'⟩ := Plan.mem_nodeIds_iff.mp hmem
    simp [hn] at hn'
  · rename_i n hn
    obtain ⟨l, hl, hiff⟩ := readyAmong_ok hso (p.children (r.template key))
    refine .bind_lift hl ?_
    exact Ends.pure ⟨.walked (Plan.mem_nodeIds_iff.mpr ⟨n, hn⟩) hiff, .nil⟩

lemma fire_ends {t : String} :
    Ends id (fire settings p r t) w
      (fun ws o => Handled p w.now r (.fire t) ws o ∧ Lawful p w.now r ws)
      fun _ ws => Faulted p w.now r (.fire t) ws ∧ Lawful p w.now r ws := by
  unfold fire
  split
  · rename_i hn
    refine Ends.pure ⟨.missing fun hmem => ?_, .nil⟩
    obtain ⟨n, hn'⟩ := Plan.mem_nodeIds_iff.mp hmem
    simp [hn] at hn'
  · rename_i n hn
    have hmem := Plan.mem_nodeIds_iff.mpr ⟨n, hn⟩
    by_cases hi : r.hasInstances t = true
    · rw [if_pos hi]
      by_cases he : (r.instanceKeys t).isEmpty = true
      · rw [if_pos he]
        exact Ends.pure ⟨.hollow hmem (hso.hollow_of_instanceKeys hi (by simpa using he)), .nil⟩
      · rw [if_neg he]
        have hne : ¬ r.Hollow t := fun hh => he (by simp [Run.instanceKeys_of_find? (n := 0) hh])
        cases hm : itemMapping p t (p.parents t) with
        | error f => exact .bind_lift_error rfl ⟨.unwritten, .nil⟩
        | ok mapping =>
          refine .bind_lift rfl ?_
          refine (fireInstances_ends hwf h hso h.id_eq hn fun k hk =>
            hso.known_instanceText hk).mono ?_ ?_
          · rintro ws o ⟨hf, hlaw⟩
            exact ⟨.instances hn hi hne hm hf, hlaw⟩
          · rintro f ws ⟨hf, hlaw⟩
            exact ⟨.instances hn hi hm hf, hlaw⟩
    · rw [if_neg hi]
      cases hin : nodeInput p r n with
      | error f => exact .bind_lift_error rfl ⟨.unwritten, .nil⟩
      | ok input =>
        refine .bind_lift rfl ?_
        obtain ⟨s, hs⟩ := hso.node_state hmem
        have ht : p.node? (r.template t) = some n := by rwa [hso.template_node hmem]
        refine (runHandler_ends hwf h hso (hwf.executable hn) hs rfl h.id_eq).mono ?_ ?_
        · intro ws o hw
          exact ⟨.whole hn (by simpa using hi) hin hw, hw.lawful ht rfl⟩
        · intro f ws hw
          exact ⟨.whole hn (by simpa using hi) hw, hw.lawful rfl⟩

lemma report_ends {c : Callback} :
    Ends id (report p r key c) w
      (fun ws o => Handled p w.now r (.callback key c) ws o ∧ Lawful p w.now r ws)
      fun _ ws => Faulted p w.now r (.callback key c) ws ∧ Lawful p w.now r ws := by
  unfold report
  split
  · exact Ends.throw ⟨.unwritten, .nil⟩
  · rename_i s hs
    by_cases hr : s.status = .running
    · have hupdate : Ends id (some <$> World.update r.id [(key, reported c)]) w
          (fun ws a => ws = [.move key (reported c)] ∧
            a = some (r.update w.now key (reported c)))
          fun f ws => ws = [] ∧ f = Store.unreadable := by
        have heq := World.update_eq h (u := reported c) hs (reported_status c).1
          (by rw [hr]; exact (reported_status c).2)
        rw [h.id_eq]
        by_cases hrev : Store.holdsRevision r.revision = true
        · rw [if_pos hrev] at heq
          exact Ends.of_ok [.move key (reported c)] (by rw [Action.map_apply, heq]; rfl) ⟨rfl, rfl⟩
        · rw [if_neg hrev] at heq
          exact Ends.of_error [] (by rw [Action.map_apply, heq]; rfl) ⟨rfl, rfl⟩
      have hhas : r.Has key .running := ⟨s, hs, hr⟩
      rw [if_neg (by simpa using hr)]
      refine Ends.bind (unlessIllegal_ends hupdate ?_) ?_ ?_
      · rintro f ws ⟨_, rfl⟩
        simp [Store.unreadable]
      · rintro ws a ⟨rfl, rfl⟩
        obtain ⟨n, hn, _, _⟩ := node_template hwf hso (Run.mem_keys_of_state? hs)
        simp only [hn]
        refine logMovement_ends.bind ?_ (by simp)
        rintro xs _ rfl
        rw [World.now_recordAll]
        have hkind : ∀ x ∈ movementNotes w.now (r.update w.now key (reported c)) n c,
            ∃ e : Event, x = .note e ∧ e.kind = .entityMoved := movementNotes_kind
        exact Ends.pure ⟨by simpa using .reported hhas hkind ⟨n, hn, rfl⟩,
          .cons (allowed_reported hhas) (lawful_notes (by simpa using hkind))⟩
      · rintro f ws ⟨rfl, _⟩
        exact ⟨.unwritten, .nil⟩
    · rw [if_pos hr]
      exact Ends.pure ⟨.ignored (by rwa [Run.has_iff hs]), .nil⟩

omit hwf hso in
lemma resume_ends {x : Json} :
    Ends id (resume r key x) w
      (fun ws o => Handled p w.now r (.resume key x) ws o ∧ Lawful p w.now r ws)
      fun _ ws => Faulted p w.now r (.resume key x) ws ∧ Lawful p w.now r ws := by
  unfold resume
  split
  · exact Ends.throw ⟨.unwritten, .nil⟩
  · rename_i s hs
    by_cases hr : s.status = .waitingForUser
    · have hhas : r.Has key .waitingForUser := ⟨s, hs, hr⟩
      have hclaim := World.claim_eq h .waitingForUser hs rfl
      have hcl : r.Allowed p (.move key (.toStatus .running)) := allowed_claim hhas rfl
      rw [if_neg (by simpa using hr), h.id_eq]
      by_cases hrev : Store.holdsRevision r.revision = true
      · rw [if_pos hrev, if_pos hr] at hclaim
        have hq := h.record (.move key (.toStatus .running))
        obtain ⟨s', hs', hr'⟩ := has_claimed w.now hhas
        have hmove := move_ends (u := .finish .completed x) (o := .walk key) hq hs' hr' rfl rfl
        rw [(Run.sameHeader_after _).id, h.id_eq] at hmove
        refine .bind_write [.move key (.toStatus .running)] hclaim ?_
        refine hmove.mono ?_ ?_
        · rintro ws o ⟨rfl, rfl, _⟩
          exact ⟨.resumed hhas, .cons hcl (.one (.complete x hs' hr'))⟩
        · rintro f ws ⟨rfl, _, hrev⟩
          exact ⟨.resumed hhas hrev, .one hcl⟩
      · rw [if_neg hrev] at hclaim
        exact .bind_error hclaim ⟨.unwritten, .nil⟩
    · rw [if_pos hr]
      exact Ends.throw ⟨.unwritten, .nil⟩

lemma retry_ends :
    Ends id (retry settings p r key) w
      (fun ws o => Handled p w.now r (.retry key) ws o ∧ Lawful p w.now r ws)
      fun _ ws => Faulted p w.now r (.retry key) ws ∧ Lawful p w.now r ws := by
  unfold retry
  split
  · exact Ends.throw ⟨.unwritten, .nil⟩
  · rename_i s hs
    by_cases hst : s.status = .failed
    · rw [if_neg (by simpa using hst)]
      obtain ⟨n, hn, _, hkind⟩ := node_template hwf hso (Run.mem_keys_of_state? hs)
      simp only [hn]
      cases hin : inputFor p r n key s with
      | error f => exact .bind_lift_error rfl ⟨.unwritten, .nil⟩
      | ok input =>
        refine .bind_lift rfl ?_
        refine (runHandler_ends hwf h hso hkind hs rfl h.id_eq).mono ?_ ?_
        · intro ws o hw
          exact ⟨.retried hs hst hn hin hw, hw.lawful hn rfl⟩
        · intro f ws hw
          exact ⟨.retried hn hw, hw.lawful rfl⟩
    · rw [if_pos hst]
      exact Ends.throw ⟨.unwritten, .nil⟩

omit hwf h in
lemma reconcile_ends :
    Ends id (reconcile p r) w
      (fun ws o => Handled p w.now r .reconcile ws o ∧ Lawful p w.now r ws)
      fun _ ws => Faulted p w.now r .reconcile ws ∧ Lawful p w.now r ws := by
  unfold reconcile
  split
  · exact Ends.throw ⟨.unwritten, .nil⟩
  · rename_i levels hl
    obtain ⟨l, hf, hiff⟩ := frontier_ok hso levels.flatten
    refine .bind_lift hf ?_
    exact Ends.pure ⟨.reconciled hl hiff, .nil⟩

theorem handle_ends (m : Message) :
    Ends id (handle settings p r m) w (fun ws o => Handled p w.now r m ws o ∧ Lawful p w.now r ws)
      fun _ ws => Faulted p w.now r m ws ∧ Lawful p w.now r ws := by
  cases m with
  | walk key => exact walk_ends hso
  | fire t => exact fire_ends hwf h hso
  | callback key c => exact report_ends hwf h hso
  | resume key x => exact resume_ends h
  | retry key => exact retry_ends hwf h hso
  | reconcile => exact reconcile_ends hso

end Hosted

end Workflow.Engine
