import Workflow.Proofs.Engine.Turns

/-! A run that is only answered, one key after another, and the account of it. -/

namespace Workflow

namespace World

def sendingsOf (w : World) (id : String) : List Sending :=
  w.sent.filter fun s => s.request.runId = id

def requestsOf (w : World) (id : String) : List Request := (w.sendingsOf id).map (·.request)

def Accepted (w : World) (id : String) : Prop :=
  ∀ s ∈ w.sendingsOf id, s.delivery.result = .accepted

instance (w : World) (id : String) : Decidable (w.Accepted id) :=
  inferInstanceAs (Decidable (∀ s ∈ w.sendingsOf id, s.delivery.result = .accepted))

end World

namespace Engine

open Run (Lawful SameAt)

inductive Answers.Gives (ans : Answers) (id : String) (w : World) : Call → Prop where
  | report {r q} (hr : w.store.run? id = some r) (hk : r.Has q.nodeKey .running)
      (hq : q ∈ w.requestsOf id) :
      Gives ans id w (.callback q.nodeKey (ans.report q.nodeKey q.input))
  | answer {r key s} (hr : w.store.run? id = some r) (hs : r.state? key = some s)
      (hst : s.status = .waitingForUser) : Gives ans id w (.submit key (ans.answer key s.output))

/-- The worlds of a run that is started with a payload and then answered, one key after another.
Whatever happens elsewhere leaves it alone. -/
inductive Answered (p : Plan) (payload : Keyed Json) (ans : Answers) (id : String) :
    World → Prop where
  | started {e : Engine} {versionId v trigger entityId input w r w'}
      (hv : w.store.version? versionId = some v) (hp : v.plan = p) (hr : w.rival = none)
      (hpay : (input.orElse fun _ => trigger.payload).getD [] = payload)
      (hsent : w.sendingsOf id = [])
      (h : e.startRun versionId trigger entityId input w = .ok r w') (hid : r.id = id) :
      Answered p payload ans id w'
  | called {e : Engine} {c w w'} (h : Answered p payload ans id w) (hc : ans.Gives id w c)
      (hp : c.perform e id w = .ok () w') : Answered p payload ans id w'
  | elsewhere {w w'} (h : Answered p payload ans id w) (hrow : w'.store.run? id = w.store.run? id)
      (hv : ∀ v, w'.store.version? v = w.store.version? v) (hr : w'.rival = none)
      (hsent : w'.sendingsOf id = w.sendingsOf id) : Answered p payload ans id w'

variable {p : Plan} {payload : Keyed Json} {ans : Answers} {asked : List Request} {now : Instant}
  {r r' : Run} {n : PlanNode} {key k id : String} {v : Shown} {held x : Json} {ws : List Write}
  {o : Outcome} {e : Engine} {w w' : World} {c : Call} {queue : List Message} {qs : List Request}
  {agenda left : List (List Message)}

lemma Answered.life (h : Answered p payload ans id w) :
    Life p (fun c => c.isOrdinary = true) id w := by
  induction h with
  | started hv hp hr _ _ h hid => exact .started hv hp hr h hid
  | called _ hc hp ih =>
    refine .called ih ?_ hp
    cases hc <;> rfl
  | elsewhere _ hrow hv hr _ ih => exact .elsewhere ih hrow hv hr

section Answer

variable (hwf : p.WellFormed) (hso : r.Sound p) (hj : Ongoing p payload ans asked r [])
include hwf hso hj

lemma Ongoing.explained (hv : r.shown? key = some v) (hst : v.status ≠ .pending) :
    ∃ n held x, p.node? n.id = some n ∧ key ∈ r.keysOf n.id ∧ r.Ready p n.id ∧
      Base p r n.id key held ∧ keyInput p r n held = .ok x ∧
      Explained p ans asked r n key held x v := by
  have hmem := Run.mem_keys_of_shown? hv
  obtain ⟨n, hn, hid, _⟩ := node_template hwf hso hmem
  rw [← hid] at hn
  have hk : key ∈ r.keysOf n.id := by
    by_cases hnode : key ∈ p.nodeIds
    · have hkey : n.id = key := hid.trans (hso.template_node hnode)
      rw [Run.keysOf, if_neg, List.mem_singleton, hkey]
      intro hi
      have hown := hj.told.own hi
      rw [hkey, hv] at hown
      exact hst (by rw [Option.some.inj hown])
    · have htext := hso.mem_instanceTexts_of_template hmem hid.symm hnode
      rwa [Run.keysOf, if_pos (Run.Sound.hasInstances_of_mem htext)]
  obtain ⟨hr, held, x, hb, hx, he⟩ := hj.told.begun hn hk hv hst
  exact ⟨n, held, x, hn, hk, hr, hb, hx, he⟩

lemma Ongoing.answer {targets : List String} {items : List Json} (hso' : r'.Sound p)
    (hnp : ¬ r.Has key .pending) (h : Turn p ans asked [] r r' n key v targets items) :
    Ongoing p payload ans asked r' [.walk key] := by
  have honward := h.onward hwf hso hj.told hso'
  refine ⟨by simpa using honward.told, fun m hm => ?_, fun msg hmsg => ?_⟩
  · by_cases hne : m = n.id
    · exact hne ▸ h.uniform_self hwf hso hnp (hj.uniform n.id h.node_mem)
    · exact honward.uniform hm hne (hj.uniform m hm)
  · exact .inl ⟨key, List.mem_singleton.mp hmsg⟩

lemma Ongoing.reported {c : Callback}
    (hc : ∀ {n held x v}, r.shown? key = some v → Explained p ans asked r n key held x v →
      v.status = .running → ans.report key x = c)
    (h : Handled p now r (.callback key c) ws o) (hl : Lawful p now r ws) :
    Ongoing p payload ans (asked ++ o.requests) (r.afterAll now ws) o.messages := by
  have hso' := hso.afterAll hwf.child_mem hl
  cases h with
  | ignored =>
    exact ⟨by simpa [Outcome.nothing] using hj.told, hj.uniform, by simp [Outcome.nothing]⟩
  | @reported _ _ notes hs hnotes =>
    obtain ⟨v, hv, hst⟩ := Run.has_iff_shown.mp hs
    obtain ⟨n, held, x, hn, hk, hr, hb, hx, he⟩ := hj.explained hwf hso hv (by simp [hst])
    obtain rfl := hc hv he hst
    obtain ⟨rfl, hkind, _⟩ := he.of_running hst
    have hafter : r.afterAll now (.move key (Engine.reported (ans.report key x)) :: notes) =
        r.update now key (Engine.reported (ans.report key x)) :=
      (Run.afterAll_cons).trans (afterAll_notes hnotes)
    rw [hafter] at hso' ⊢
    have hturn : Turn p ans asked [] r (r.update now key (Engine.reported (ans.report key x))) n
        key _ [] [] :=
      Turn.plain hn hk (hs.not_settled rfl) hr ⟨held, x, hb, hx, .reported hkind⟩ (by simp)
        Run.sameHeader_update Run.instances_update (fun k => shown?_update hv)
        (.inr (by simp [hkind]))
    simpa [Outcome.walk] using
      hj.answer hwf hso hso' (fun hp => by cases hs.unique hp) hturn

lemma Ongoing.resumed {s : NodeState} (hs : r.state? key = some s)
    (h : Handled p now r (.resume key (ans.answer key s.output)) ws o) (hl : Lawful p now r ws) :
    Ongoing p payload ans (asked ++ o.requests) (r.afterAll now ws) o.messages := by
  have hso' := hso.afterAll hwf.child_mem hl
  cases h with
  | resumed hwait =>
    have hst : s.status = .waitingForUser := (Run.has_iff hs).mp hwait
    obtain ⟨n, held, x, hn, hk, hr, hb, hx, he⟩ := hj.explained hwf hso (Run.shown?_of_state? hs)
      (by simp [NodeState.shown, hst])
    obtain ⟨hshown, hkind⟩ := he.of_waiting hst
    have hout : s.output = x := congrArg Shown.output hshown
    have hv := Run.shown?_of_state? hs
    rw [hshown] at hv
    have hturn : Turn p ans asked [] r
        ((r.update now key (.toStatus .running)).update now key
          (.finish .completed (ans.answer key s.output)))
        n key ⟨.completed, ans.answer key x, none⟩ [] [] := by
      refine Turn.plain hn hk (hwait.not_settled rfl) hr ⟨held, x, hb, hx, .answered hkind⟩
        (by simp) (Run.sameHeader_update.trans Run.sameHeader_update)
        (Run.instances_update.trans Run.instances_update) (fun k => ?_) (.inr (by simp [hkind]))
      have hrun : (r.update now key (.toStatus .running)).shown? key =
          some ⟨.running, x, none⟩ := by
        rw [shown?_update_self hv]
        rfl
      rw [shown?_update hrun, shown?_update hv, hout]
      split <;> rfl
    simpa [Outcome.walk] using
      hj.answer hwf hso hso' (fun hp => by cases hwait.unique hp) hturn

lemma Ongoing.called (hc : ans.Gives id w c) (hrow : w.store.run? id = some r)
    (hasked : w.requestsOf id = asked) (h : Drained p now r [c.message] ws qs) :
    Ongoing p payload ans (asked ++ qs) (r.afterAll now ws) [] := by
  cases h with
  | next hm hl hd =>
    have hso' := hso.afterAll hwf.child_mem hl
    rw [Run.afterAll_append, ← List.append_assoc]
    refine hd.ongoing hwf hso' ?_
    cases hc with
    | report _ _ hq =>
      refine hj.reported hwf hso (fun _ he hst => ?_) hm hl
      rw [(he.of_running hst).2.2 _ (hasked ▸ hq) rfl]
    | answer hr hs _ =>
      obtain rfl := Option.some.inj (hrow.symm.trans hr)
      exact hj.resumed hwf hso hs hm hl

end Answer

lemma shown?_newRun {v : FlowVersion} {t : Trigger} {entityId : Option String} {u : Shown}
    (h : (newRun id v t entityId now).shown? k = some u) : u = ⟨.pending, .null, none⟩ := by
  obtain ⟨s, hs, rfl⟩ := Option.map_eq_some_iff.mp h
  obtain ⟨m, _, he⟩ := List.mem_map.mp (Keyed.mem_of_find? hs)
  rw [← (Prod.mk.inj he).2]
  rfl

lemma ongoing_newRun {v : FlowVersion} {t : Trigger} {entityId : Option String}
    (hwf : v.plan.WellFormed) (hpay : t.payload.getD [] = payload) :
    Ongoing v.plan payload ans [] (newRun id v t entityId now) (v.plan.entryNodes.map .fire) where
  told := by
    have hwhole : ∀ {n}, (newRun id v t entityId now).hasInstances n = true → False := by
      intro n hi
      obtain ⟨is, hf⟩ := Run.hasInstances_iff.mp hi
      cases hf
    have hspread : ∀ {n items}, ¬ Spread v.plan (newRun id v t entityId now) n items := by
      rintro n items ⟨_, k, _, _, _, _, hk⟩
      cases shown?_newRun hk
    refine ⟨hpay, by simp, fun hi => (hwhole hi).elim, fun hs => absurd hs hspread,
      fun hs => absurd hs hspread, fun hi => (hwhole hi).elim, ?_, ?_⟩
    · intro n k x _ _ hp hb
      cases hb with
      | whole =>
        obtain ⟨u, hu, _⟩ := Run.has_iff_shown.mp hp
        rw [hu, shown?_newRun hu]
      | item hs => exact absurd hs hspread
    · intro n k u _ _ hu hst
      exact absurd (by rw [shown?_newRun hu]) hst
  uniform n hn k hk k' hk' _ := by
    obtain ⟨s, hs⟩ := (newRun_sound hwf id t entityId now).keysOf_state hn hk'
    have hshown := Run.shown?_of_state? hs
    rw [shown?_newRun hshown] at hshown
    exact Run.has_of_shown? hshown
  queued msg hmsg := by
    obtain ⟨n, hn, rfl⟩ := List.mem_map.mp hmsg
    refine .inr ⟨n, rfl, fun _ s hs => ?_⟩
    rw [(hwf.entry_iff.mp hn).2] at hs
    cases hs

lemma refusal?_of_accepted {s : Sending} (h : s.delivery.result = .accepted) :
    refusal? s = none := by
  simp [refusal?, h]

lemma sendingsOf_handOver (hown : ∀ q ∈ qs, q.runId = id) :
    (e.handOver w qs).sendingsOf id = w.sendingsOf id ++ e.sendings w.sent qs := by
  have hall : (e.sendings w.sent qs).filter (fun s => s.request.runId = id) =
      e.sendings w.sent qs := by
    rw [List.filter_eq_self]
    intro s hs
    have hmem : s.request ∈ (e.sendings w.sent qs).map (·.request) := List.mem_map_of_mem hs
    rw [map_request_sendings] at hmem
    simpa using hown _ hmem
  rw [World.sendingsOf, handOver, List.filter_append, hall, World.sendingsOf]

lemma Reaches.sent_prefix (hwf : p.WellFormed) (hr : ∃ r, w.Hosts id p r ∧ r.Sound p)
    (h : Reaches e id agenda w left w') : w.sent <+: w'.sent := by
  induction h with
  | refl => exact List.prefix_rfl
  | @step _ _ w _ _ _ _ hs _ ih =>
    obtain ⟨r, hhosts, hso⟩ := hr
    obtain ⟨ws, qs, hd, _, rfl, _⟩ := stepAndDeliver_ok hwf hhosts hso hs
    refine .trans ⟨e.sendings w.sent qs, ?_⟩ (ih ⟨_, hosts_handOver (hhosts.recordAll ws),
      hso.afterAll hwf.child_mem hd.lawful⟩)
    rw [handOver, World.sent_recordAll]

lemma Reaches.first (hwf : p.WellFormed) (hhosts : w.Hosts id p r) (hso : r.Sound p)
    (h : Reaches e id [queue] w [] w') :
    ∃ ws qs, Drained p w.now r queue ws qs ∧
      Store.holdsRevision (r.afterAll w.now ws).revision = true ∧
      (∃ l, w'.sent = w.sent ++ e.sendings w.sent qs ++ l) ∧
      ((∀ s ∈ e.sendings w.sent qs, s.delivery.result = .accepted) →
        w' = e.handOver (w.recordAll id ws) qs) := by
  cases h with
  | @step _ _ _ failures w₁ _ _ hs hrest =>
    obtain ⟨ws, qs, hd, hrev, rfl, hfail⟩ := stepAndDeliver_ok hwf hhosts hso hs
    obtain ⟨l, hl⟩ := hrest.sent_prefix hwf ⟨_, hosts_handOver (hhosts.recordAll ws),
      hso.afterAll hwf.child_mem hd.lawful⟩
    refine ⟨ws, qs, hd, hrev, ⟨l, ?_⟩, fun hacc => ?_⟩
    · rw [← hl, handOver, World.sent_recordAll]
    · have hnone : failures = [] := by
        rw [hfail, List.filterMap_eq_nil_iff]
        exact fun s hs => refusal?_of_accepted (hacc s hs)
      subst hnone
      cases hrest
      rfl

lemma Reaches.accepted (hwf : p.WellFormed) (hhosts : w.Hosts id p r) (hso : r.Sound p)
    (hown : ∀ {ws qs}, Drained p w.now r queue ws qs → ∀ q ∈ qs, q.runId = id)
    (hacc : w'.Accepted id) (h : Reaches e id [queue] w [] w') :
    ∃ ws qs, Drained p w.now r queue ws qs ∧ w' = e.handOver (w.recordAll id ws) qs := by
  obtain ⟨ws, qs, hd, _, ⟨l, hl⟩, hw⟩ := h.first hwf hhosts hso
  refine ⟨ws, qs, hd, hw fun s hs => hacc s (List.mem_filter.mpr ⟨?_, ?_⟩)⟩
  · rw [hl]
    exact List.mem_append_left _ (List.mem_append_right _ hs)
  · have hmem : s.request ∈ (e.sendings w.sent qs).map (·.request) := List.mem_map_of_mem hs
    rw [map_request_sendings] at hmem
    simpa using hown hd _ hmem

lemma accepted_of_subset (hsub : w.sent ⊆ w'.sent) (hacc : w'.Accepted id) : w.Accepted id := by
  intro s hs
  obtain ⟨hmem, hid⟩ := List.mem_filter.mp hs
  exact hacc s (List.mem_filter.mpr ⟨hsub hmem, hid⟩)

lemma requestsOf_handOver (hown : ∀ q ∈ qs, q.runId = id) :
    (e.handOver (w.recordAll id ws) qs).requestsOf id = w.requestsOf id ++ qs := by
  rw [World.requestsOf, sendingsOf_handOver hown, List.map_append, map_request_sendings]
  simp [World.requestsOf, World.sendingsOf]

lemma Ongoing.reached (hwf : p.WellFormed) (hhosts : w.Hosts id p r) (hso : r.Sound p)
    (hacc : w'.Accepted id) (h : Reaches e id [queue] w [] w')
    (hnext : ∀ {ws qs}, Drained p w.now r queue ws qs →
      Ongoing p payload ans (w.requestsOf id ++ qs) (r.afterAll w.now ws) []) :
    ∃ r', w'.Hosts id p r' ∧ r'.Sound p ∧ Ongoing p payload ans (w'.requestsOf id) r' [] := by
  have hown : ∀ {ws qs}, Drained p w.now r queue ws qs → ∀ q ∈ qs, q.runId = id := by
    intro ws qs hd q hq
    have hid := ((hnext hd).told.requests q (List.mem_append_right _ hq)).1
    rw [hid, (Run.sameHeader_afterAll ws).id, hhosts.id_eq]
  obtain ⟨ws, qs, hd, rfl⟩ := h.accepted hwf hhosts hso hown hacc
  refine ⟨_, hosts_handOver (hhosts.recordAll ws), hso.afterAll hwf.child_mem hd.lawful, ?_⟩
  rw [requestsOf_handOver (hown hd)]
  exact hnext hd

lemma Answered.account (hwf : p.WellFormed) (h : Answered p payload ans id w)
    (hacc : w.Accepted id) :
    ∃ r, w.Hosts id p r ∧ r.Sound p ∧ Ongoing p payload ans (w.requestsOf id) r [] := by
  induction h with
  | @started e versionId v trigger entityId input w r w' hv hp hr hpay hsent h hid =>
    subst hp hid
    obtain ⟨hid, hhosts, hso, hreach, _⟩ := startRun_ok hwf hv hr h
    rw [← hid] at hsent hacc ⊢
    refine Ongoing.reached hwf hhosts hso hacc hreach fun hd => ?_
    have hnone : (withCreated w (created w v trigger entityId input)).requestsOf
        (created w v trigger entityId input).id = [] := by
      rw [World.requestsOf, List.map_eq_nil_iff]
      exact hsent
    rw [hnone]
    exact hd.ongoing hwf hso (ongoing_newRun hwf hpay)
  | @called e c w w' hlife hc hp ih =>
    have hreach := advance_ok (perform_ok hp)
    obtain ⟨r₀, hhosts₀, hso₀, _⟩ := hlife.life.attended hwf fun _ _ => rfl
    have hsub := (hreach.sent_prefix hwf ⟨r₀, hhosts₀, hso₀⟩).subset
    obtain ⟨r, hhosts, hso, hj⟩ := ih (accepted_of_subset hsub hacc)
    exact Ongoing.reached hwf hhosts hso hacc hreach fun hd =>
      hj.called hwf hso hc hhosts.row rfl hd
  | elsewhere _ hrow hv hr hsent ih =>
    obtain ⟨r, hhosts, hso, hj⟩ := ih (by rwa [World.Accepted, hsent] at hacc)
    refine ⟨r, ⟨hrow.trans hhosts.row, by rw [hv]; exact hhosts.version, hr⟩, hso, ?_⟩
    rwa [World.requestsOf, hsent]

def Answers.callFor (ans : Answers) (id key : String) (w : World) : Option Call :=
  (w.store.run? id).bind fun r =>
    (r.state? key).bind fun s =>
      match s.status with
      | .running => ((w.requestsOf id).find? fun q => q.nodeKey = key).map fun q =>
          .callback q.nodeKey (ans.report q.nodeKey q.input)
      | .waitingForUser => some (.submit key (ans.answer key s.output))
      | _ => none

def answerFor (e : Engine) (ans : Answers) (fuel : Nat) (id : String) :
    List String → World → Option World
  | [], w => some w
  | key :: rest, w =>
    ((ans.callFor id key w).bind fun c => e.returnFor fuel id c w).bind
      (answerFor e ans fuel id rest)

lemma Answers.gives_of_callFor (h : ans.callFor id key w = some c) : ans.Gives id w c := by
  obtain ⟨r, hr, h⟩ := Option.bind_eq_some_iff.mp h
  obtain ⟨s, hs, h⟩ := Option.bind_eq_some_iff.mp h
  split at h
  · rename_i hst
    obtain ⟨q, hq, rfl⟩ := Option.map_eq_some_iff.mp h
    have hkey : q.nodeKey = key := by simpa using List.find?_some hq
    exact .report hr (hkey ▸ ⟨s, hs, hst⟩) (List.mem_of_find?_eq_some hq)
  · rename_i hst
    obtain rfl := Option.some.inj h
    exact .answer hr hs hst
  · cases h

lemma Answered.of_startFor {fuel : Nat} {versionId : String} {v : FlowVersion} {trigger : Trigger}
    {entityId : Option String} {input : Option (Keyed Json)}
    (hv : w.store.version? versionId = some v) (hp : v.plan = p) (hr : w.rival = none)
    (hpay : (input.orElse fun _ => trigger.payload).getD [] = payload) (hsent : w.sent = [])
    (h : e.startFor fuel versionId trigger entityId input w = some (id, w')) :
    Answered p payload ans id w' := by
  obtain ⟨⟨r, hstart, hid⟩, _⟩ := startFor_sound h
  exact .started hv hp hr hpay (by simp [World.sendingsOf, hsent]) hstart hid

lemma Answered.of_answerFor {fuel : Nat} {keys : List String} (ha : Answered p payload ans id w)
    (h : e.answerFor ans fuel id keys w = some w') : Answered p payload ans id w' := by
  induction keys generalizing w with
  | nil =>
    obtain rfl := Option.some.inj h
    exact ha
  | cons key rest ih =>
    obtain ⟨w₁, hw, h⟩ := Option.bind_eq_some_iff.mp h
    obtain ⟨c, hc, hret⟩ := Option.bind_eq_some_iff.mp hw
    exact ih (.called ha (Answers.gives_of_callFor hc) (performFor_sound (returnFor_eq hret))) h

end Engine

end Workflow
