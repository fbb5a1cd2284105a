import Workflow.Proofs.Engine.Course

/-! What holds of every row, and of every request on the row of its run, whatever operations there
are on however many runs, and whether they return or fail. -/

namespace Workflow.Engine

open Run (Lawful)
open Store (holdsRevision)

structure Stock (I : Plan → Run → Prop) (R : Plan → Run → Request → Prop) : Prop where
  born : ∀ (id : String) (v : FlowVersion) (trigger : Trigger) (entityId : Option String)
    (now : Instant), v.plan.WellFormed → I v.plan (newRun id v trigger entityId now)
  endures : ∀ {p : Plan}, p.WellFormed → Endures p (I p)
  lasts : ∀ {p : Plan} {q : Request}, p.WellFormed → Lasts p fun r => R p r q
  sends : ∀ {p : Plan} {now : Instant} {r : Run} {m : Message} {rest : List Message}
    {ws : List Write} {o : Outcome}, p.WellFormed → r.Sound p → Fit p r → Poised p r (m :: rest) →
    Handled p now r m ws o → Lawful p now r ws → I p r →
    ∀ q ∈ o.requests, q.runId = r.id ∧ R p (r.afterAll now ws) q

structure Stands (I : Plan → Run → Prop) (p : Plan) (r : Run) : Prop where
  sound : r.Sound p
  nonneg : 0 ≤ r.revision
  fit : holdsRevision r.revision = true → Fit p r
  holds : I p r

structure Stocked (I : Plan → Run → Prop) (R : Plan → Run → Request → Prop) (w : World) : Prop where
  rival : w.rival = none
  compiled : ∀ {id v}, w.store.version? id = some v → v.plan.WellFormed
  row : ∀ {id r}, w.store.run? id = some r →
    ∃ v, w.store.version? r.versionId = some v ∧ Stands I v.plan r
  sent : ∀ s ∈ w.sent, ∃ r v, w.store.run? s.request.runId = some r ∧
    w.store.version? r.versionId = some v ∧ R v.plan r s.request

def Operation.IsFiring (op : Operation) : Prop := ∃ id node, op = .call id (.fire node)

variable {I : Plan → Run → Prop} {R : Plan → Run → Request → Prop} {e : Engine} {p : Plan}
  {now : Instant} {r : Run} {id : String} {w w' : World} {queue : List Message}
  {agenda left : List (List Message)} {ws : List Write} {qs : List Request} {op : Operation}

section Rows

variable (hst : Stock I R) (hwf : p.WellFormed) (h : Stands I p r)
include hst hwf h

lemma Stands.advanced (hq : Poised p r queue) (hadv : Advanced p now r queue ws) :
    Stands I p (r.afterAll now ws) where
  sound := h.sound.afterAll hwf.child_mem hadv.lawful
  nonneg := lasts_nonneg.afterAll hwf h.sound hadv.lawful h.nonneg
  fit := (hadv.waits hwf h.sound fun hrev => ⟨h.fit hrev, hq⟩).left
  holds := (hst.endures hwf).advanced hwf hadv h.sound (fun hrev => ⟨h.fit hrev, hq⟩) h.holds

lemma Stands.drained (hq : Poised p r queue) (hd : Drained p now r queue ws qs)
    (hend : holdsRevision (r.afterAll now ws).revision = true) :
    ∀ q ∈ qs, q.runId = r.id ∧ R p (r.afterAll now ws) q := by
  let K (r' : Run) (_ : List Message) (_ : List Write) (sent : List Request) : Prop :=
    (I p r' ∧ r'.id = r.id) ∧ ∀ q ∈ sent, q.runId = r.id ∧ R p r' q
  have hstep : ∀ {r' : Run} {m : Message} {rest : List Message} {done : List Write}
      {sent : List Request} {ws : List Write} {o : Outcome}, r'.Sound p →
      holdsRevision r'.revision = true → Fit p r' → Poised p r' (m :: rest) →
      Handled p now r' m ws o → Lawful p now r' ws →
      holdsRevision (r'.afterAll now ws).revision = true → K r' (m :: rest) done sent →
      K (r'.afterAll now ws) (rest ++ o.messages) (done ++ ws) (sent ++ o.requests) := by
    rintro r' m rest done sent ws o hso hrev hf hq hm hl _ ⟨⟨hi, hid⟩, hsent⟩
    refine ⟨⟨(hst.endures hwf).handled hso hrev hf hq hm hl hi,
      (Run.sameHeader_afterAll ws).id.trans hid⟩, fun q hmem => ?_⟩
    rcases List.mem_append.mp hmem with hold | hnew
    · exact (hsent q hold).imp_right ((hst.lasts hwf).afterAll hwf hso hl)
    · rw [← hid]
      exact hst.sends hwf hso hf hq hm hl hi q hnew
  have hstart : K r queue [] [] := ⟨⟨h.holds, rfl⟩, by simp⟩
  have hguided : Fit p (r.afterAll now ws) ∧ K (r.afterAll now ws) [] ([] ++ ws) ([] ++ qs) :=
    hd.guides hwf @hstep h.sound h.nonneg hend h.fit hq hstart
  exact hguided.2.2

end Rows

section Worlds

variable (hst : Stock I R) (h : Stocked I R w)
include hst h

omit hst in
lemma Stocked.stands (hh : w.Hosts id p r) : p.WellFormed ∧ Stands I p r := by
  obtain ⟨v, hv, rfl⟩ := hh.version
  obtain ⟨v', hv', hs⟩ := h.row hh.row
  obtain rfl := Option.some.inj (hv.symm.trans hv')
  exact ⟨h.compiled hv, hs⟩

lemma Stocked.recordAll (hh : w.Hosts id p r) (hq : Poised p r queue)
    (hadv : Advanced p w.now r queue ws) : Stocked I R (w.recordAll id ws) := by
  obtain ⟨hwf, hs⟩ := h.stands hh
  obtain ⟨v, hv, rfl⟩ := hh.version
  have hversion : (w.recordAll id ws).store.version? (r.afterAll w.now ws).versionId = some v := by
    rw [World.version?_recordAll, (Run.sameHeader_afterAll ws).versionId, hv]
  refine ⟨World.rival_recordAll.trans h.rival, fun hv => ?_, fun {other q} hr => ?_,
    fun s hmem => ?_⟩
  · rw [World.version?_recordAll] at hv
    exact h.compiled hv
  · rw [World.run?_recordAll hh.row] at hr
    split at hr
    · obtain rfl := Option.some.inj hr
      exact ⟨v, hversion, hs.advanced hst hwf hq hadv⟩
    · simpa only [World.version?_recordAll] using h.row hr
  · rw [World.sent_recordAll] at hmem
    obtain ⟨q, v', hr, hv', hR⟩ := h.sent s hmem
    rw [World.run?_recordAll hh.row]
    by_cases hid : s.request.runId = id
    · rw [hid, hh.row] at hr
      obtain rfl := Option.some.inj hr
      obtain rfl := Option.some.inj (hv.symm.trans hv')
      exact ⟨_, v, if_pos hid, hversion, (hst.lasts hwf).afterAll hwf hs.sound hadv.lawful hR⟩
    · exact ⟨q, v', by rw [if_neg hid, hr], by rwa [World.version?_recordAll], hR⟩

omit hst in
lemma Stocked.handOver (hh : w.Hosts id p r) (hqs : ∀ q ∈ qs, q.runId = id ∧ R p r q) :
    Stocked I R (e.handOver w qs) := by
  refine ⟨h.rival, h.compiled, h.row, fun s hmem => ?_⟩
  rcases List.mem_append.mp hmem with hold | hnew
  · exact h.sent s hold
  · have hq : s.request ∈ qs := by
      rw [← map_request_sendings e w.sent qs]
      exact List.mem_map_of_mem hnew
    obtain ⟨hid, hR⟩ := hqs _ hq
    obtain ⟨v, hv, rfl⟩ := hh.version
    exact ⟨r, v, hid ▸ hh.row, hv, hR⟩

lemma Stocked.step (hh : w.Hosts id p r) (hq : ∀ q, Poised p q queue)
    (hs : (∃ failures, e.stepAndDeliver id queue w = .ok failures w') ∨
      ∃ f, e.stepAndDeliver id queue w = .error f w') :
    Stocked I R w' ∧ ∃ r', w'.Hosts id p r' := by
  obtain ⟨hwf, hstands⟩ := h.stands hh
  obtain ⟨ws, qs, hadv, rfl, hend⟩ := stepAndDeliver_advances hwf hh hstands.sound hs
  have hh' := hh.recordAll ws
  refine ⟨(h.recordAll hst hh (hq r) hadv).handOver hh' fun q hmem => ?_, _, hosts_handOver hh'⟩
  obtain ⟨hd, hrev⟩ := hend (List.ne_nil_of_mem hmem)
  exact hh.id_eq ▸ hstands.drained hst hwf (hq r) hd hrev q hmem

end Worlds

section Calls

variable (hst : Stock I R)
include hst

lemma Reaches.stocked (hr : Reaches e id agenda w left w') (h : Stocked I R w)
    (hh : ∃ r, w.Hosts id p r) (ha : ∀ queue ∈ agenda, ∀ q, Poised p q queue) :
    Stocked I R w' ∧ (∃ r, w'.Hosts id p r) ∧ ∀ queue ∈ left, ∀ q, Poised p q queue := by
  induction hr with
  | refl => exact ⟨h, hh, ha⟩
  | @step queue agenda w failures w₁ left w' hs _ ih =>
    obtain ⟨r, hh⟩ := hh
    obtain ⟨hq, hrest⟩ := List.forall_mem_cons.mp ha
    obtain ⟨h₁, hh₁⟩ := h.step hst hh hq (.inl ⟨_, hs⟩)
    refine ih h₁ hh₁ fun queue hmem => ?_
    rcases List.mem_append.mp hmem with hmem | hmem
    · exact hrest queue hmem
    · obtain ⟨f, _, rfl⟩ := List.mem_map.mp hmem
      exact fun q => .command rfl

lemma Breaks.stocked (hb : Breaks e id agenda w w') (h : Stocked I R w)
    (hh : ∃ r, w.Hosts id p r) (ha : ∀ queue ∈ agenda, ∀ q, Poised p q queue) :
    Stocked I R w' := by
  obtain ⟨left, mid, hr, hend⟩ := hb
  obtain ⟨hmid, ⟨r, hh⟩, hleft⟩ := hr.stocked hst h hh ha
  rcases hend with rfl | ⟨queue, rest, f, rfl, hs⟩
  · exact hmid
  · exact (hmid.step hst hh (hleft queue List.mem_cons_self) (.inr ⟨f, hs⟩)).1

lemma Stocked.withCreated {versionId : String} {v : FlowVersion} {trigger : Trigger}
    {entityId : Option String} {input : Option (Keyed Json)} (h : Stocked I R w)
    (hv : w.store.version? versionId = some v)
    (hnone : w.store.run? (created w v trigger entityId input).id = none) :
    Stocked I R (withCreated w (created w v trigger entityId input)) := by
  have hwf := h.compiled hv
  refine ⟨h.rival, h.compiled, fun {id r} hr => ?_, fun s hmem => ?_⟩
  · rw [run?_withCreated] at hr
    cases hold : w.store.run? id with
    | some q =>
      rw [hold] at hr
      exact h.row (hold.trans hr)
    | none =>
      rw [hold, Option.none_or] at hr
      split at hr
      · obtain rfl := Option.some.inj hr
        obtain ⟨v', hv', hp⟩ := (hosts_withCreated hv h.rival hnone).version
        refine ⟨v', hv', hp ▸ newRun_sound hwf _ _ _ _, Int.le_refl 0, fun _ => hp ▸ fit_newRun hwf,
          ?_⟩
        exact hp ▸ hst.born _ v _ _ _ hwf
      · cases hr
  · obtain ⟨r, v', hr, hv', hR⟩ := h.sent s hmem
    exact ⟨r, v', by rw [run?_withCreated, hr, Option.some_or], hv', hR⟩

lemma Operation.stocked_of_opening {w₀ : World} (ho : op.opening w = some (id, queue, w₀))
    (h : Stocked I R w₀) (hh : w₀.Hosts id p r) (hq : ∀ q, Poised p q queue) :
    Stocked I R (op.after e w) := by
  have ha : ∀ queue' ∈ [queue], ∀ q, Poised p q queue' := by simpa using hq
  rcases advance_after ho with hadv | ⟨f, hadv⟩
  · exact ((advance_ok hadv).stocked hst h ⟨r, hh⟩ ha).1
  · exact (advance_error hadv).stocked hst h ⟨r, hh⟩ ha

omit hst in
lemma after_call_missing {c : Call} (hrow : w.store.run? id = none) :
    (Operation.call id c).after e w = w := by
  have hadv : e.advance id [c.message] w = .error (.runNotFound id) w :=
    Action.bind_of_error (Action.bind_of_error ((drain_missing hrow).trans (if_neg (by simp))))
  have ho : (Operation.call id c).opening w = some (id, [c.message], w) := rfl
  rcases Operation.advance_after ho with h | ⟨f, h⟩
  · rw [hadv] at h
    cases h
  · exact (EStateM.Result.error.inj (hadv.symm.trans h)).2.symm

lemma Operation.stocked (h : Stocked I R w) (hop : ¬ op.IsFiring) :
    Stocked I R (op.after e w) := by
  -- What does not begin with a row leaves rows and requests as they are.
  cases op with
  | start versionId trigger entityId input =>
    cases hv : w.store.version? versionId with
    | none =>
      rw [after_eq (.inr ⟨_, Action.bind_of_error (startRun_missing hv)⟩)]
      exact h
    | some v =>
      rcases startRun_cases e trigger entityId input hv with ⟨f, _, hf⟩ | ⟨s, hc, _, _⟩
      · rw [after_eq (.inr ⟨f, Action.bind_of_error hf⟩)]
        exact ⟨h.rival, h.compiled, h.row, h.sent⟩
      · obtain ⟨hnone, _⟩ := Store.createRun_ok hc
        exact stocked_of_opening hst (by simp [Operation.opening, hv, hc])
          (h.withCreated hst hv hnone) (hosts_withCreated hv h.rival hnone)
          (poised_entryNodes (h.compiled hv))
  | call id c =>
    have hc : ∀ node, c ≠ .fire node := by
      rintro node rfl
      exact hop ⟨id, node, rfl⟩
    cases hrow : w.store.run? id with
    | none => rwa [after_call_missing hrow]
    | some r =>
      obtain ⟨v, hv, hs⟩ := h.row hrow
      exact stocked_of_opening hst rfl h ⟨hrow, ⟨v, hv, rfl⟩, h.rival⟩ fun q => Call.poised hc
  | wait now => exact ⟨h.rival, h.compiled, h.row, h.sent⟩

lemma stocked_afterOperations {ops : List (Engine × Operation)} (h : Stocked I R w)
    (hops : ∀ op ∈ ops, ¬ op.2.IsFiring) : Stocked I R (afterOperations w ops) := by
  induction ops generalizing w with
  | nil => exact h
  | cons op rest ih =>
    obtain ⟨hop, hrest⟩ := List.forall_mem_cons.mp hops
    exact ih (Operation.stocked hst h hop) hrest

omit hst in
lemma Fresh.stocked (hw : Fresh w) : Stocked I R w where
  rival := hw.rival
  compiled hv := by
    obtain ⟨c, catalogue, hc⟩ := hw.compiled _ (List.mem_of_find?_eq_some hv)
    exact Canvas.compile_wellFormed hc
  row hr := by simp [Store.run?, hw.runs] at hr
  sent := by simp [hw.sent]

end Calls

end Workflow.Engine
