import Workflow.Proofs.Engine.Alike
import Workflow.Proofs.Engine.Grown

/-! A worker's report is written and the walk after it is lost: reconciling the run makes of it what
the walk would have made. -/

namespace Workflow

namespace World

def sentSince (w₀ w : World) : List Sending := w.sent.drop w₀.sent.length

def AcceptedSince (w₀ w : World) : Prop := ∀ s ∈ w₀.sentSince w, s.delivery.result = .accepted

instance (w₀ w : World) : Decidable (w₀.AcceptedSince w) :=
  inferInstanceAs (Decidable (∀ s ∈ w₀.sentSince w, s.delivery.result = .accepted))

def dispatchedSince (w₀ w : World) : List (String × Json) :=
  (w₀.sentSince w).map fun s => (s.request.nodeKey, s.request.input)

end World

namespace Engine

open Run (Lawful SameAt)

def Call.isAnswer : Call → Bool
  | .callback _ _ | .submit _ _ => true
  | _ => false

def Plausible (p : Plan) (r : Run) : Prop := ∃ payload ans, Ongoing p payload ans [] r []

def Answers.put (ans : Answers) (key : String) (c : Callback) (y : Json) : Answers where
  report k x := if k = key then c else ans.report k x
  answer k x := if k = key then y else ans.answer k x

variable {p : Plan} {payload : Keyed Json} {ans : Answers} {asked asked' : List Request}
  {now : Instant} {r r' r'' : Run} {n : PlanNode} {key k id : String} {v : Shown} {held x y : Json}
  {ws : List Write} {qs qs' : List Request} {queue : List Message} {e e' : Engine}
  {w w' w'' w₀ w₁ : World} {c : Callback} {m : Message}

lemma Explained.put (h : Explained p ans asked r n k held x v)
    (hk : k = key → v.status = .running ∨ v.status = .waitingForUser) :
    Explained p (ans.put key c y) asked r n k held x v := by
  by_cases he : k = key
  · rcases hk he with hst | hst
    · obtain ⟨rfl, hkind, hq⟩ := h.of_running hst
      exact .sent hkind hq
    · obtain ⟨rfl, hkind⟩ := h.of_waiting hst
      exact .parked hkind
  · have hreport : (ans.put key c y).report k x = ans.report k x := if_neg he
    have hanswer : (ans.put key c y).answer k x = ans.answer k x := if_neg he
    cases h with
    | reported hkind => exact hreport ▸ .reported hkind
    | answered hkind => exact hanswer ▸ .answered hkind
    | sent hkind hq => exact .sent hkind hq
    | parked hkind => exact .parked hkind
    | unsplit hkind hi => exact .unsplit hkind hi
    | rejected hkind hf => exact .rejected hkind hf
    | split hkind hi => exact .split hkind hi
    | uncollected hkind hc => exact .uncollected hkind hc
    | collected hkind hc => exact .collected hkind hc

lemma Told.explain {ans' : Answers} (ht : Told p payload ans asked r)
    (h : ∀ {n k held x v}, r.shown? k = some v → Explained p ans asked r n k held x v →
      Explained p ans' asked' r n k held x v) (hsub : asked' ⊆ asked) :
    Told p payload ans' asked' r where
  payload := ht.payload
  requests q hq := ht.requests q (hsub hq)
  fanned := ht.fanned
  spread := ht.spread
  unique := ht.unique
  own := ht.own
  held := ht.held
  begun hn hk hv hst := by
    obtain ⟨hr, held, x, hb, hx, he⟩ := ht.begun hn hk hv hst
    exact ⟨hr, held, x, hb, hx, h hv he⟩

namespace Ongoing

lemma forget (hj : Ongoing p payload ans asked r queue) : Ongoing p payload ans [] r queue :=
  ⟨hj.told.explain (fun _ he => he.mono rfl (by simp)) (by simp), hj.uniform, hj.queued⟩

lemma put (hj : Ongoing p payload ans asked r queue)
    (hk : r.Has key .running ∨ r.Has key .waitingForUser) :
    Ongoing p payload (ans.put key c y) asked r queue := by
  refine ⟨hj.told.explain (fun hv he => he.put ?_) (List.Subset.refl _), hj.uniform, hj.queued⟩
  rintro rfl
  exact hk.imp (Run.status_of_shown? hv) (Run.status_of_shown? hv)

end Ongoing

section Plausible

variable (hwf : p.WellFormed) (hso : r.Sound p)
include hwf hso

lemma Plausible.called {call : Call} (hj : Plausible p r) (hc : call.isAnswer = true)
    (h : Drained p now r [call.message] ws qs) : Plausible p (r.afterAll now ws) := by
  obtain ⟨payload, ans, hj⟩ := hj
  cases h with
  | @next _ _ _ ws o _ _ hm hl hd =>
    have hso' := hso.afterAll hwf.child_mem hl
    suffices hnext : ∃ ans, Ongoing p payload ans ([] ++ o.requests) (r.afterAll now ws)
        o.messages by
      obtain ⟨ans, hnext⟩ := hnext
      rw [Run.afterAll_append]
      exact ⟨payload, ans, (hd.ongoing hwf hso' hnext).forget⟩
    cases call with
    | callback key c =>
      by_cases hrun : r.Has key .running
      · exact ⟨ans.put key c .null, (hj.put (.inl hrun)).reported hwf hso
          (fun _ _ _ => if_pos rfl) hm hl⟩
      · exact ⟨ans, hj.reported hwf hso
          (fun hv _ hst => absurd (hst ▸ Run.has_of_shown? hv) hrun) hm hl⟩
    | submit key y =>
      have hwait : r.Has key .waitingForUser := by
        cases hm
        assumption
      have ⟨s, hs, _⟩ := hwait
      have hans : (ans.put key (.failure "") y).answer key s.output = y := if_pos rfl
      refine ⟨ans.put key (.failure "") y, (hj.put (.inr hwait)).resumed hwf hso hs ?_ hl⟩
      rw [hans]
      exact hm
    | retry | fire | walk | reconcile => cases hc

omit hso in
lemma Life.plausible (h : Life p (fun c => c.isAnswer = true) id w) :
    ∃ r, w.Hosts id p r ∧ r.Sound p ∧ Plausible p r := by
  refine h.invariant hwf (fun _ _ => rfl) (fun hj hso hc hd _ => hj.called hwf hso hc hd) ?_
  intro id v t entityId now ws qs hv hd _
  subst hv
  have hj : Ongoing v.plan _ ⟨fun _ _ => .failure "", fun _ x => x⟩ []
      (newRun id v t entityId now) (v.plan.entryNodes.map .fire) := ongoing_newRun hwf rfl
  exact ⟨_, _, (hd.ongoing hwf (newRun_sound hwf _ _ _ _) hj).forget⟩

end Plausible

/-! Two runs that grow out of one -/

def startedShown (p : Plan) (ans : Answers) (r : Run) (n : PlanNode) (key : String)
    (held x : Json) : Shown :=
  match n.kind with
  | .worker => ⟨.running, held, none⟩
  | .ux => ⟨.waitingForUser, x, none⟩
  | _ => finalShown p ans r n key held x

lemma Explained.started (h : Explained p ans asked r n key held x v)
    (hworker : n.kind = .worker → v.status = .running)
    (hform : n.kind = .ux → v.status = .waitingForUser)
    (hun : n.kind = .splitter → v.status = .failed →
      ∀ {f}, Store.Rejection f → v.error ≠ some f.text) :
    v = startedShown p ans r n key held x := by
  cases h with
  | sent hk | parked hk => simp [startedShown, hk]
  | reported hk =>
    rcases status_showAfter_reported (v := ⟨.running, held, none⟩) (ans.report key x) with h | h
    · cases h.symm.trans (hworker hk)
    · cases h.symm.trans (hworker hk)
  | answered hk => cases hform hk
  | rejected hk hf => exact absurd rfl (hun hk rfl hf)
  | unsplit hk hi | split hk hi => simp [startedShown, finalShown, hk, hi, Except.map]
  | uncollected hk hc | collected hk hc => simp [startedShown, finalShown, hk, hc]

lemma Grows.started (h : Grows p r r' qs) (hun : Unrejected p r') (hk : ¬ r.Begun key)
    (hn : p.node? n.id = some n) (ht : r'.template key = n.id) (hv : r'.shown? key = some v)
    (he : Explained p ans asked r' n key held x v) : v = startedShown p ans r' n key held x := by
  obtain ⟨hworker, hform⟩ := h.begun hk (ht ▸ hn) (Run.has_of_shown? hv) he.not_pending
  exact he.started (fun hkind => (hworker hkind).1) hform
    fun hkind hst _ => hun.error_ne hn ht hv hkind hst

lemma Grows.agree (h : Grows p r r' qs) (h' : Grows p r r'' qs') (hun : Unrejected p r')
    (hun' : Unrejected p r'') : Agree p ans asked asked' r' r'' := by
  intro n k v v' held x hn ht ht' hv hv' he he' hc
  by_cases hk : r.Begun k
  · obtain ⟨st, _, hhas⟩ := id hk
    obtain ⟨u, hu, _⟩ := Run.has_iff_shown.mp hhas
    rw [h.kept hk hu] at hv
    rw [h'.kept hk hu] at hv'
    exact Option.some.inj (hv.symm.trans hv')
  · rw [h.started hun hk hn ht hv he, h'.started hun' hk hn ht' hv' he', startedShown,
      startedShown, finalShown, finalShown, hc]

lemma not_overlooked {m : String} (hfull : ∀ t, ¬ r.Hollow t) : ¬ Overlooked p r m := by
  rintro ⟨_, _, s, _, hs⟩
  cases hs with
  | unready hh | behind hh => exact hfull _ hh

structure Outgrown (p : Plan) (payload : Keyed Json) (ans : Answers) (r r' : Run)
    (qs : List Request) : Prop where
  sound : r'.Sound p
  grows : Grows p r r' qs
  ongoing : Ongoing p payload ans qs r' []
  attended : Attended p r' []

lemma Drained.outgrown (hwf : p.WellFormed) (hso : r.Sound p) (h : Drained p now r queue ws qs)
    (hq : ∀ a ∈ queue, a.isCommand = false) (hj : Ongoing p payload ans [] r queue)
    (hat : Attended p r queue) : Outgrown p payload ans r (r.afterAll now ws) qs where
  sound := hso.afterAll hwf.child_mem h.lawful
  grows := h.grows hwf hso hq
  ongoing := by simpa using h.ongoing hwf hso hj
  attended := h.attended hwf hso hat

namespace Outgrown

variable (hwf : p.WellFormed) (h : Outgrown p payload ans r r' qs)
  (h' : Outgrown p payload ans r r'' qs')
include hwf h h'

lemma sameAt (hfull : ∀ t, ¬ r'.Hollow t) (hfull' : ∀ t, ¬ r''.Hollow t)
    (hun : Unrejected p r') (hun' : Unrejected p r'') : ∀ n ∈ p.nodeIds, SameAt r' r'' n :=
  Engine.sameAt hwf h.sound h'.sound h.ongoing h'.ongoing h.attended h'.attended
    (h.grows.agree h'.grows hun hun') fun _ _ =>
      ⟨fun ho => absurd ho (not_overlooked hfull), fun ho => absurd ho (not_overlooked hfull')⟩

lemma requested (hall : ∀ n ∈ p.nodeIds, SameAt r' r'' n) {q : Request} (hq : q ∈ qs) :
    ∃ q' ∈ qs', q'.nodeKey = q.nodeKey ∧ q'.input = q.input := by
  obtain ⟨hfresh, hrun⟩ := h.grows.asked q hq
  obtain ⟨v, hv, hst⟩ := Run.has_iff_shown.mp hrun
  have hne : v.status ≠ .pending := by simp [hst]
  obtain ⟨n, _, _, hn, hk, _, _, _, he⟩ := h.ongoing.explained hwf h.sound hv hne
  have hkind := (he.of_running hst).2.1
  have hmem := Plan.mem_nodeIds_iff.mpr ⟨n, hn⟩
  have hsame := hall n.id hmem
  have hv' : r''.shown? q.nodeKey = some v := (hsame.keys _ hk).symm.trans hv
  obtain ⟨held, x, he, he'⟩ := explained_both
    (fun s hs => hall s (hwf.parent_mem (hwf.parents_iff.mp hs))) hn hsame.instances h'.sound
    h'.ongoing hwf h.sound h.ongoing hk hv hv' hne hne
  have ht := h'.sound.template_keysOf hmem (hsame.keysOf ▸ hk)
  obtain ⟨_, q', hq', hkey⟩ :=
    (h'.grows.begun hfresh (by rwa [ht]) (Run.has_of_shown? hv') hne).1 hkind
  refine ⟨q', hq', hkey, ?_⟩
  rw [(he.of_running hst).2.2 q hq rfl, (he'.of_running hst).2.2 q' hq' hkey]

end Outgrown

/-! Calls whose requests are accepted -/

lemma sentSince_handOver (hw : w.sent = w₀.sent) :
    w₀.sentSince (e.handOver (w.recordAll id ws) qs) = e.sendings w.sent qs := by
  rw [World.sentSince, handOver, World.sent_recordAll, hw, List.drop_left]

lemma dispatchedSince_handOver (hw : w.sent = w₀.sent) :
    w₀.dispatchedSince (e.handOver (w.recordAll id ws) qs) =
      qs.map fun q => (q.nodeKey, q.input) := by
  have hmap := congrArg (List.map fun q => (q.nodeKey, q.input))
    (map_request_sendings e w.sent qs)
  rw [← hmap, World.dispatchedSince, sentSince_handOver hw, List.map_map]
  rfl

lemma Reaches.acceptedSince (hwf : p.WellFormed) (hhosts : w.Hosts id p r) (hso : r.Sound p)
    (h : Reaches e id [queue] w [] w') (hacc : w₀.AcceptedSince w') (hw : w.sent = w₀.sent) :
    ∃ ws qs, Drained p w.now r queue ws qs ∧
      Store.holdsRevision (r.afterAll w.now ws).revision = true ∧
      w' = e.handOver (w.recordAll id ws) qs := by
  obtain ⟨ws, qs, hd, hrev, ⟨l, hl⟩, hend⟩ := h.first hwf hhosts hso
  refine ⟨ws, qs, hd, hrev, hend fun s hs => hacc s ?_⟩
  rw [World.sentSince, hl, hw, List.append_assoc, List.drop_left, ← hw]
  exact List.mem_append_left _ hs

lemma command_accepted (hwf : p.WellFormed) (hhosts : w.Hosts id p r) (hso : r.Sound p)
    (h : e.command id m w = .ok r' w') (hacc : w₀.AcceptedSince w') (hw : w.sent = w₀.sent) :
    ∃ ws qs, Drained p w.now r [m] ws qs ∧ r' = r.afterAll w.now ws ∧
      w₀.dispatchedSince w' = qs.map fun q => (q.nodeKey, q.input) := by
  obtain ⟨hadv, hread⟩ := command_ok h
  obtain ⟨ws, qs, hd, _, rfl⟩ := (advance_ok hadv).acceptedSince hwf hhosts hso hacc hw
  have hrow := Store.run?_of_readRun hread
  rw [(hosts_handOver (hhosts.recordAll ws)).row] at hrow
  exact ⟨ws, qs, hd, (Option.some.inj hrow).symm, dispatchedSince_handOver hw⟩

section Recover

variable (hwf : p.WellFormed) (hso : r.Sound p) (hk : r.Has key .running)
include hwf hso hk

lemma outgrown_of_callback (hj : Ongoing p payload ans [] r []) (hat : Attended p r [])
    (hc : ∀ x, ans.report key x = c) (h : Drained p now r [.callback key c] ws qs) :
    Outgrown p payload ans (r.update now key (reported c)) (r.afterAll now ws) qs ∧
      Ongoing p payload ans [] (r.update now key (reported c)) [.walk key] := by
  cases h with
  | @next _ _ rest _ _ _ _ hm hl hd =>
    have hso' := hso.afterAll hwf.child_mem hl
    have hnext := hj.reported hwf hso (fun _ _ _ => hc _) hm hl
    have hat' : Attended p _ _ :=
      (hat.mono (List.nil_subset [.callback key c])).step hwf hso hm hl
    cases hm with
    | ignored hno => exact absurd hk hno
    | @reported _ _ notes _ hnotes =>
      have hafter : r.afterAll now (.move key (reported c) :: notes) =
          r.update now key (reported c) := Run.afterAll_cons.trans (afterAll_notes hnotes)
      rw [hafter] at hd hnext hat' hso'
      rw [Run.afterAll_append, hafter]
      exact ⟨hd.outgrown hwf hso' (by simp [Outcome.walk, Message.isCommand]) hnext hat', hnext⟩

omit hk in
lemma outgrown_of_reconcile (hj : Ongoing p payload ans [] r queue)
    (h : Drained p now r [.reconcile] ws qs) :
    Outgrown p payload ans r (r.afterAll now ws) qs := by
  cases h with
  | next hm hl hd =>
    cases hm with
    | @reconciled levels l hlev hl' =>
      obtain ⟨levels', hlev', hmem⟩ := Plan.levels_complete hwf
      obtain rfl := Option.some.inj (hlev.symm.trans hlev')
      refine hd.outgrown hwf hso ?_ ⟨hj.told, hj.uniform, ?_⟩ ?_
      · intro a ha
        obtain ⟨n, _, rfl⟩ := List.mem_map.mp ha
        rfl
      · intro a ha
        obtain ⟨n, hn, rfl⟩ := List.mem_map.mp ha
        exact .inr ⟨n, rfl, fun _ => ((hl' n).mp hn).2.2⟩
      · -- The open nodes that are ready are all fired.
        intro n hn ho hr
        exact .fire (List.mem_map.mpr ⟨n, (hl' n).mpr ⟨(hmem n).mpr hn, ho, hr⟩, rfl⟩)

end Recover

/-- A worker's report is taken as usual, or it is written, its walk is lost and the run is
reconciled: the run ends alike, and the same work is requested, if all requests are accepted and
nothing is fanned out over nothing or rejected. -/
theorem reconcile_recovers_lost_walk {canvas : Canvas} {catalogue : Catalogue} {q : Run}
    (later : Instant) (hc : canvas.compile catalogue = .ok p)
    (h : Life p (fun call => call.isAnswer = true) id w) (hr : w.store.run? id = some r)
    (hk : r.Has key .running) (hwalked : e.handleCallback id key c w = .ok r' w')
    (hlost : World.update id [(key, reported c)] w = .ok q w₁)
    (hreconciled : e'.reconcileRun id { w₁ with now := later } = .ok r'' w'')
    (hacc : w.AcceptedSince w') (hacc' : w.AcceptedSince w'') (hfull : ∀ t, ¬ r'.Hollow t)
    (hfull' : ∀ t, ¬ r''.Hollow t) (hun : Unrejected p r') (hun' : Unrejected p r'') :
    Alike r' r'' ∧ ∀ x, x ∈ w.dispatchedSince w' ↔ x ∈ w.dispatchedSince w'' := by
  have hwf := Canvas.compile_wellFormed hc
  obtain ⟨r₀, hhosts, hso, payload, ans, hj⟩ := h.plausible hwf
  obtain rfl := Option.some.inj (hhosts.row.symm.trans hr)
  obtain ⟨r₁, hhosts₁, _, hrev, hat⟩ := h.attended hwf fun _ _ => rfl
  obtain rfl := Option.some.inj (hhosts₁.row.symm.trans hr)
  have ⟨s, hs, hst⟩ := hk
  have hwrite := World.update_eq hhosts (u := reported c) hs (reported_status c).1
    (hst ▸ (reported_status c).2)
  rw [hlost, if_pos hrev] at hwrite
  obtain ⟨rfl, rfl⟩ := EStateM.Result.ok.inj hwrite
  have hrow := hhosts.record (.move key (reported c))
  have hhosts' : World.Hosts { w.record id (.move key (reported c)) with now := later } id p
      (r₁.update w.now key (reported c)) := ⟨hrow.row, hrow.version, hrow.rival⟩
  obtain ⟨ws, qs, hd, rfl, hsent⟩ := command_accepted hwf hhosts hso hwalked hacc rfl
  obtain ⟨ws', qs', hd', rfl, hsent'⟩ :=
    command_accepted hwf hhosts' hso.update hreconciled hacc' rfl
  -- Both runs grow out of the row with the report, with the same answers.
  obtain ⟨hout, hj'⟩ := outgrown_of_callback hwf hso hk (hj.put (c := c) (y := .null) (.inl hk))
    hat (fun _ => if_pos rfl) hd
  have hout' := outgrown_of_reconcile hwf hso.update hj' hd'
  have hall := hout.sameAt hwf hout' hfull hfull' hun hun'
  refine ⟨alike_of_sameAt hout.sound hout'.sound hout.ongoing.told hout'.ongoing.told hall,
    fun x => ?_⟩
  have hrequested : ∀ {qs qs' : List Request},
      (∀ q ∈ qs, ∃ q' ∈ qs', q'.nodeKey = q.nodeKey ∧ q'.input = q.input) →
      x ∈ qs.map (fun q => (q.nodeKey, q.input)) → x ∈ qs'.map fun q => (q.nodeKey, q.input) := by
    intro qs qs' hqs hx
    obtain ⟨q, hq, rfl⟩ := List.mem_map.mp hx
    obtain ⟨q', hq', hkey, hinput⟩ := hqs q hq
    exact List.mem_map.mpr ⟨q', hq', by rw [hkey, hinput]⟩
  rw [hsent, hsent']
  exact ⟨hrequested fun q hq => hout.requested hwf hout' hall hq,
    hrequested fun q hq => hout'.requested hwf hout (fun n hn => (hall n hn).symm) hq⟩

/-! A lost walk that is computed -/

def writeFor (id key : String) (c : Callback) (w : World) : Option World :=
  match World.update id [(key, reported c)] w with
  | .ok _ w' => some w'
  | .error _ _ => none

def loseFor (e : Engine) (fuel : Nat) (id key : String) (c : Callback) (w : World) :
    Option (World × World × World) :=
  (e.returnFor fuel id (.callback key c) w).bind fun w' =>
    (writeFor id key c w).bind fun w₁ =>
      (e.returnFor fuel id .reconcile w₁).map fun w'' => (w', w₁, w'')

lemma writeFor_sound (h : writeFor id key c w = some w') :
    ∃ q, World.update id [(key, reported c)] w = .ok q w' := by
  unfold writeFor at h
  split at h
  · rename_i q w₁ hu
    obtain rfl := Option.some.inj h
    exact ⟨q, hu⟩
  · cases h

lemma command_of_returnFor {fuel : Nat} (call : Call)
    (hc : call.perform e id = (e.command id call.message >>= fun _ => pure ()))
    (h : e.returnFor fuel id call w = some w') (hr : w'.store.run? id = some r) :
    e.command id call.message w = .ok r w' := by
  have hp := performFor_sound (returnFor_eq h)
  rw [hc] at hp
  obtain ⟨q, w₁, hcommand, hpure⟩ := Action.bind_eq_ok.mp hp
  obtain ⟨_, rfl⟩ := EStateM.Result.ok.inj hpure
  have hrow := Store.run?_of_readRun (command_ok hcommand).2
  obtain rfl := Option.some.inj (hrow.symm.trans hr)
  exact hcommand

lemma loseFor_sound {fuel : Nat} (h : e.loseFor fuel id key c w = some (w', w₁, w''))
    (hr : w'.store.run? id = some r') (hr' : w''.store.run? id = some r'') :
    e.handleCallback id key c w = .ok r' w' ∧
      (∃ q, World.update id [(key, reported c)] w = .ok q w₁) ∧
      e.reconcileRun id w₁ = .ok r'' w'' := by
  obtain ⟨_, hw', h⟩ := Option.bind_eq_some_iff.mp h
  obtain ⟨_, hw₁, h⟩ := Option.bind_eq_some_iff.mp h
  obtain ⟨_, hw'', h⟩ := Option.map_eq_some_iff.mp h
  obtain ⟨rfl, rfl, rfl⟩ : _ = w' ∧ _ = w₁ ∧ _ = w'' := by simpa using h
  exact ⟨command_of_returnFor (.callback key c) rfl hw' hr, writeFor_sound hw₁,
    command_of_returnFor .reconcile rfl hw'' hr'⟩

def Untroubled (r : Run) : Prop :=
  (∀ entry ∈ r.instances, entry.2 ≠ []) ∧ ∀ entry ∈ r.states, entry.2.status ≠ .failed

instance : Decidable (Untroubled r) := inferInstanceAs (Decidable (_ ∧ _))

lemma Untroubled.not_hollow (h : Untroubled r) (t : String) : ¬ r.Hollow t :=
  fun hh => h.1 _ (Keyed.mem_of_find? hh) rfl

lemma Untroubled.unrejected (h : Untroubled r) : Unrejected p r :=
  fun _ _ hs hst _ => absurd hst (h.2 _ (Keyed.mem_of_find? hs))

def splitterBehindWorker : Canvas where
  nodes? := some [.bare "source" .worker [("webhook_url", .str "http://worker")],
    .bare "split" .splitter [("array_path", .str "items")],
    .bare "each" .worker [("webhook_url", .str "http://worker")], .bare "join" .collector []]
  edges? := some [.bare "source" "split" [], .bare "split" "each" [], .bare "each" "join" []]

def twoItems : Callback := ⟨.completed, .obj [("items", .arr [.str "a", .str "b"])], none⟩

theorem recovered_fan_out : ∃ (id : String) (w w' w'' : World) (r' r'' : Run),
    Life (.ofCanvas splitterBehindWorker []) (fun call => call.isAnswer = true) id w ∧
      w'.store.run? id = some r' ∧ w''.store.run? id = some r'' ∧ Alike r' r'' ∧
      (∀ x, x ∈ w.dispatchedSince w' ↔ x ∈ w.dispatchedSince w'') ∧
      ("each_0", .str "a") ∈ w.dispatchedSince w'' ∧
      ("each_1", .str "b") ∈ w.dispatchedSince w'' := by
  -- The worker's items are fanned out and requested, also if the walk from the worker is lost.
  have hc := Canvas.compile_of_checks (c := splitterBehindWorker) (by decide +kernel)
    (by decide +kernel) (by decide +kernel)
  obtain ⟨⟨id, w⟩, hstart, r, hr, hk, ⟨w', w₁, w''⟩, hlose, hacc, hacc', r', hr', r'', hr'', hfine,
      hfine', hsent⟩ := exists_of_any
    (x := accepting.startFor 20 "version" .byHand none none (.ofCanvas splitterBehindWorker))
    (P := fun x => ∃ r ∈ x.2.store.run? x.1, r.Has "source" .running ∧
      ∃ y ∈ accepting.loseFor 20 x.1 "source" twoItems x.2,
      x.2.AcceptedSince y.1 ∧ x.2.AcceptedSince y.2.2 ∧
      ∃ r' ∈ y.1.store.run? x.1, ∃ r'' ∈ y.2.2.store.run? x.1, Untroubled r' ∧ Untroubled r'' ∧
      ("each_0", .str "a") ∈ x.2.dispatchedSince y.2.2 ∧
      ("each_1", .str "b") ∈ x.2.dispatchedSince y.2.2) (by decide +kernel)
  have hl : Life (.ofCanvas splitterBehindWorker []) (fun call => call.isAnswer = true) id w :=
    .of_startFor rfl rfl rfl hstart
  obtain ⟨hwalked, ⟨q, hlost⟩, hreconciled⟩ := loseFor_sound hlose hr' hr''
  obtain ⟨halike, hdispatched⟩ := reconcile_recovers_lost_walk w₁.now hc hl hr hk hwalked
    hlost hreconciled hacc hacc' hfine.not_hollow hfine'.not_hollow hfine.unrejected
    hfine'.unrejected
  exact ⟨id, w, w', w'', r', r'', hl, hr', hr'', halike, hdispatched, hsent⟩

end Engine

end Workflow
