import Workflow.Proofs.Engine.Answered
import Workflow.Proofs.Engine.Entries

/-! Runs side by side: what an operation on one run leaves alone of another, and so the course of
each run among operations on all of them. -/

namespace Workflow

open Run (Lawful)

variable {s : Store} {es : List Event} {w w' w'' : World} {id other : String} {p : Plan}
  {r r₀ : Run} {ws : List Write}

lemma Store.logOf_logged (rows : List Run) (h : r.Owns es) (hne : id ≠ r.id) :
    ({ s with runs := rows }.logAll es).logOf id = s.logOf id := by
  obtain ⟨numbered, heq, hmap⟩ := logAll_eq { s with runs := rows } es
  have hnone : numbered.filter (fun e => e.runId == some id) = [] := by
    refine List.filter_eq_nil_iff.mpr fun e he => ?_
    obtain ⟨e', he', hbare⟩ := List.mem_map.mp (hmap ▸ List.mem_map_of_mem he)
    have hrun : e.runId = some r.id := (congrArg Event.runId hbare).symm.trans (h e' he').1
    simpa [hrun] using Ne.symm hne
  simp only [logOf, findEvents, heq, List.filter_append]
  simp [hnone]

namespace World

structure Untouched (id : String) (w w' : World) : Prop where
  row : w'.store.run? id = w.store.run? id
  log : w'.store.logOf id = w.store.logOf id
  sent : w'.sendingsOf id = w.sendingsOf id
  versions : ∀ v, w'.store.version? v = w.store.version? v

protected lemma Untouched.refl : w.Untouched id w := ⟨rfl, rfl, rfl, fun _ => rfl⟩

lemma Untouched.trans (h : w.Untouched id w') (h' : w'.Untouched id w'') : w.Untouched id w'' :=
  ⟨h'.row.trans h.row, h'.log.trans h.log, h'.sent.trans h.sent,
    fun v => (h'.versions v).trans (h.versions v)⟩

lemma logOf_record {x : Write} (h : w.Hosts other p r) (hx : r.Owns (r.eventsOf w.now x))
    (hne : id ≠ other) : (w.record other x).store.logOf id = w.store.logOf id := by
  have hne : id ≠ r.id := h.id_eq ▸ hne
  cases x with
  | move | spawn =>
    simpa [record, Store.recorded, h.row, Store.put] using Store.logOf_logged _ hx hne
  | note e => exact Store.logOf_logged w.store.runs hx hne

lemma logOf_recordAll (h : w.Hosts other p r) (hws : r.Owns (r.entriesOf w.now ws))
    (hne : id ≠ other) : (w.recordAll other ws).store.logOf id = w.store.logOf id := by
  induction ws generalizing w r with
  | nil => rfl
  | cons x rest ih =>
    obtain ⟨hx, hrest⟩ := List.forall_mem_append.mp hws
    have hid : (r.after w.now x).id = r.id := (Run.sameHeader_after x).id
    rw [recordAll_cons, ih (h.record x) (Run.Owns.same hrest hid.symm), logOf_record h hx hne]

end World

namespace Engine

open World (Untouched)

variable {e : Engine} {queue : List Message} {agenda left : List (List Message)}
  {qs : List Request}

lemma sendingsOf_handOver_other (h : ∀ q ∈ qs, q.runId ≠ id) :
    (e.handOver w qs).sendingsOf id = w.sendingsOf id := by
  have hnone : (e.sendings w.sent qs).filter (fun s => s.request.runId = id) = [] := by
    refine List.filter_eq_nil_iff.mpr fun s hs => ?_
    have hmem : s.request ∈ qs := by
      rw [← map_request_sendings e w.sent qs]
      exact List.mem_map_of_mem hs
    simpa using h _ hmem
  simp [World.sendingsOf, handOver, hnone]

lemma Reaches.keeps_of {P : World → Prop} {Q : List Message → Prop}
    (hreport : ∀ key c, Q [.callback key c])
    (hstep : ∀ {queue w w'}, P w → Q queue →
      ((∃ failures, e.stepAndDeliver id queue w = .ok failures w') ∨
        ∃ f, e.stepAndDeliver id queue w = .error f w') → P w')
    (h : Reaches e id agenda w left w') (ha : ∀ queue ∈ agenda, Q queue) (hp : P w) :
    (∀ queue ∈ left, Q queue) ∧ P w' := by
  induction h with
  | refl => exact ⟨ha, hp⟩
  | @step queue agenda w failures w₁ left w' hs _ ih =>
    obtain ⟨hq, hrest⟩ := List.forall_mem_cons.mp ha
    refine ih (List.forall_mem_append.mpr ⟨hrest, fun queue hmem => ?_⟩)
      (hstep hp hq (.inl ⟨_, hs⟩))
    obtain ⟨f, _, rfl⟩ := List.mem_map.mp hmem
    exact hreport f.1 f.2

lemma Operation.keeps_of {op : Operation} {P : World → Prop} {Q : List Message → Prop} {w₀ : World}
    (hreport : ∀ key c, Q [.callback key c])
    (hstep : ∀ {queue w w'}, P w → Q queue →
      ((∃ failures, e.stepAndDeliver id queue w = .ok failures w') ∨
        ∃ f, e.stepAndDeliver id queue w = .error f w') → P w')
    (ho : op.opening w = some (id, queue, w₀)) (hq : Q queue) (hp : P w₀) : P (op.after e w) := by
  have ha : ∀ q ∈ [queue], Q q := by simpa using hq
  rcases Operation.advance_after ho with hadv | ⟨f, hadv⟩
  · exact ((advance_ok hadv).keeps_of hreport hstep ha hp).2
  · obtain ⟨left, mid, hr, hend⟩ := advance_error hadv
    obtain ⟨hleft, hmid⟩ := hr.keeps_of hreport hstep ha hp
    rcases hend with heq | ⟨q, rest, f, rfl, hs⟩
    · exact heq ▸ hmid
    · exact hstep hmid (hleft q List.mem_cons_self) (.inr ⟨f, hs⟩)

lemma untouched_step (hne : id ≠ other) (hw : w.Sane)
    (hs : (∃ failures, e.stepAndDeliver other queue w = .ok failures w') ∨
      ∃ f, e.stepAndDeliver other queue w = .error f w') : w'.Sane ∧ w.Untouched id w' := by
  cases hr : w.store.run? other with
  | none =>
    obtain rfl := stepAndDeliver_missing hr hs
    exact ⟨hw, .refl⟩
  | some r =>
    obtain ⟨v, hwf, hh, hso, hforms⟩ := hw.hosts hr
    obtain ⟨ws, qs, hadv, rfl, hdrained⟩ := stepAndDeliver_advances hwf hh hso hs
    have hown := (hadv.recounts hwf hso hforms).owns
    refine ⟨sane_handOver (hw.recordAll hwf hh hso hforms hadv.lawful), ?_, ?_, ?_, ?_⟩
    · exact (World.run?_recordAll hh.row id).trans (if_neg hne)
    · exact World.logOf_recordAll hh hown hne
    · rw [sendingsOf_handOver_other]
      · simp [World.sendingsOf]
      · intro q hq
        obtain ⟨hd, _⟩ := hdrained (List.ne_nil_of_mem hq)
        rw [(hd.matches hwf hso hforms).own q hq, (Run.sameHeader_afterAll ws).id, hh.id_eq]
        exact hne.symm
    · exact World.version?_recordAll

lemma untouched_withCreated (hne : id ≠ r.id) : w.Untouched id (withCreated w r) where
  row := by simp [run?_withCreated, hne]
  log := by
    have hown : r.Owns [Store.runStarted w.now r] := by
      intro e he
      obtain rfl := List.mem_singleton.mp he
      exact ⟨rfl, rfl⟩
    exact Store.logOf_logged (w.store.runs ++ [r]) hown hne
  sent := rfl
  versions v := by
    change (Store.logAll { w.store with runs := w.store.runs ++ [r] } [_]).version? v = _
    rw [Store.version?, Store.versions_logAll]
    rfl

lemma Operation.opening_start {versionId : String} {v : FlowVersion} {trigger : Trigger}
    {entityId : Option String} {input : Option (Keyed Json)} {s : Store}
    (hv : w.store.version? versionId = some v)
    (hc : Store.createRun w.now (created w v trigger entityId input) w.store = .ok s) :
    (Operation.start versionId trigger entityId input).opening w =
      some ((created w v trigger entityId input).id, v.plan.entryNodes.map .fire,
        withCreated w (created w v trigger entityId input)) := by
  simp [Operation.opening, hv, hc]

lemma Operation.untouched (op : Operation) (hw : w.Sane)
    (hother : ∀ other queue w₀, op.opening w = some (other, queue, w₀) → id ≠ other) :
    w.Untouched id (op.after e w) := by
  have hopened : ∀ {other queue w₀}, op.opening w = some (other, queue, w₀) → w₀.Sane →
      w.Untouched id w₀ → w.Untouched id (op.after e w) := by
    intro other queue w₀ ho hw₀ hu
    refine (Operation.keeps_of (P := fun w' => w'.Sane ∧ w.Untouched id w')
      (Q := fun _ => True) (fun _ _ => trivial) ?_ ho trivial ⟨hw₀, hu⟩).2
    rintro queue mid mid' ⟨hmid, hu⟩ - hs
    obtain ⟨hmid', hu'⟩ := untouched_step (hother other _ _ ho) hmid hs
    exact ⟨hmid', hu.trans hu'⟩
  cases op with
  | start versionId trigger entityId input =>
    cases hv : w.store.version? versionId with
    | none =>
      rw [Operation.after_eq (.inr ⟨_, Action.bind_of_error (startRun_missing hv)⟩)]
      exact .refl
    | some v =>
      rcases startRun_cases e trigger entityId input hv with ⟨f, _, hf⟩ | ⟨s, hc, hnone, _⟩
      · rw [Operation.after_eq (.inr ⟨f, Action.bind_of_error hf⟩)]
        exact ⟨rfl, rfl, rfl, fun _ => rfl⟩
      · have ho := Operation.opening_start hv hc
        exact hopened ho (sane_withCreated hw hv hnone) (untouched_withCreated (hother _ _ _ ho))
  | call other c => exact hopened rfl hw .refl
  | wait now => exact ⟨rfl, rfl, rfl, fun _ => rfl⟩

lemma tells_afterOperations {w : World} (hw : Fresh w) (hlog : ∀ e ∈ w.store.events, e.runId = none)
    (ops : List (Engine × Operation)) : Tells (fun _ _ _ => True) (afterOperations w ops) :=
  Tale.afterOperations ⟨fun _ _ _ _ _ _ => trivial, fun _ _ _ _ _ => trivial⟩ hw hlog ops

lemma Operation.opening_cases {op : Operation} {w₀ : World}
    (ho : op.opening w = some (id, queue, w₀)) :
    (∃ c, op = .call id c) ∨ ∃ versionId trigger entityId input v s,
      op = .start versionId trigger entityId input ∧ w.store.version? versionId = some v ∧
        (created w v trigger entityId input).id = id ∧
        Store.createRun w.now (created w v trigger entityId input) w.store = .ok s := by
  cases op with
  | start versionId trigger entityId input =>
    obtain ⟨v, hv, ho⟩ := Option.bind_eq_some_iff.mp ho
    dsimp only at ho
    split at ho
    · rename_i s hc
      obtain ⟨hid, -⟩ := Prod.mk.inj (Option.some.inj ho)
      exact .inr ⟨versionId, trigger, entityId, input, v, s, rfl, hv, hid, hc⟩
    · cases ho
  | call other c =>
    obtain ⟨rfl, -⟩ := Prod.mk.inj (Option.some.inj ho)
    exact .inl ⟨c, rfl⟩
  | wait now => cases ho

lemma course_afterOperations {w : World} (hw : Fresh w)
    (hlog : ∀ e ∈ w.store.events, e.runId = none) {ops : List (Engine × Operation)}
    (hcalls : ∀ op ∈ ops, ∀ node, op.2 ≠ .call id (.fire node))
    (hr : (afterOperations w ops).store.run? id = some r) :
    ∃ p r₀, p.WellFormed ∧ Course p id r₀ (afterOperations w ops) := by
  induction ops using List.reverseRecOn generalizing r with
  | nil =>
    rw [afterOperations, List.foldl_nil, hw.run?_eq] at hr
    cases hr
  | append_singleton ops op ih =>
    obtain ⟨hops, hop⟩ := List.forall_mem_append.mp hcalls
    have hop := hop op (List.mem_singleton.mpr rfl)
    have hlast : afterOperations w (ops ++ [op]) = op.2.after op.1 (afterOperations w ops) :=
      List.foldl_append
    obtain ⟨e, op⟩ := op
    have htells := tells_afterOperations hw hlog ops
    have hsane := (op.after_cases (e := e) htells.sane).1
    rw [hlast] at hr ⊢
    generalize afterOperations w ops = w₁ at *
    by_cases hid : ∃ queue w₀, op.opening w₁ = some (id, queue, w₀)
    · obtain ⟨queue, w₀, ho⟩ := hid
      rcases Operation.opening_cases ho with ⟨c, rfl⟩ | ⟨_, _, _, _, v, s, rfl, hv, hid, hc⟩
      · cases hrow : w₁.store.run? id with
        | none =>
          have ho : (Operation.call id c).opening w₁ = some (id, [c.message], w₁) := rfl
          have hgone := Operation.keeps_of (e := e) (P := fun w' => w'.store.run? id = none)
            (Q := fun _ => True) (fun _ _ => trivial)
            (fun hnone _ hs => stepAndDeliver_missing hnone hs ▸ hnone) ho trivial hrow
          rw [hgone] at hr
          cases hr
        | some r₁ =>
          obtain ⟨p, r₀, hwf, hcourse⟩ := ih hops hrow
          exact ⟨p, r₀, hwf, .called hcourse fun node hc => hop node (hc ▸ rfl)⟩
      · obtain ⟨hnone, -⟩ := Store.createRun_ok hc
        have hnew : w₁.store.logOf id = [] := List.map_eq_nil_iff.mp (htells.unborn (hid ▸ hnone))
        exact ⟨v.plan, _, htells.sane.compiled hv,
          .started hv rfl htells.sane.rival rfl hid hc hnew⟩
    · have hu : w₁.Untouched id (op.after e w₁) :=
        op.untouched htells.sane fun other queue w₀ ho he => hid ⟨queue, w₀, he ▸ ho⟩
      obtain ⟨p, r₀, hwf, hcourse⟩ := ih hops (hu.row.symm.trans hr)
      exact ⟨p, r₀, hwf, .elsewhere hcourse hu.row (hu.versions _) hu.log hsane.rival⟩

end Engine

end Workflow
