import Workflow.Proofs.Engine.Supply

/-! Which element of which list a parallel instance is given, whenever it is started. -/

namespace Workflow

/-- The value is the element itself, or the object of what the mapping picks out of the element. -/
def Mapping.Picks (mapping : Mapping) (x input : Json) : Prop :=
  if mapping = [] then input = x
  else ∃ members, input = .obj members ∧
    List.Forall₂ (fun e m => m.1 = e.1 ∧ x.resolveOutput e.2 = .ok m.2) mapping members

namespace Engine

open Run (Lawful)

/-- The key is completed with the list, the target has an instance for each element, and no other
key of the same node is completed. -/
structure Deals (r : Run) (key target : String) (items : List Json) : Prop where
  completed : ∃ s, r.state? key = some s ∧ s.status = .completed ∧ s.output = .arr items
  registered : Keyed.find? r.instances target = some (indices items.length)
  alone : ∀ other, r.template other = r.template key → r.Has other .completed → other = key

def Dealt (p : Plan) (r : Run) : Prop :=
  ∀ key n t, p.node? (r.template key) = some n → n.kind = .splitter → t ∈ p.fannedOut n.id →
    r.Has key .completed → ∃ items, Deals r key t items

variable {p : Plan} {now : Instant} {r snap : Run} {n : PlanNode} {key k t : String}
  {input x : Json} {source st : Status} {s : NodeState} {u : NodeUpdate} {items : List Json}
  {mapping : Mapping} {members : Keyed Json} {ws : List Write} {o : Outcome} {m : Message}
  {rest : List Message} {I : Plan → Run → Prop} {R : Plan → Run → Request → Prop}

lemma forall₂_apply (h : Mapping.apply x mapping = .ok members) :
    List.Forall₂ (fun e m => m.1 = e.1 ∧ x.resolveOutput e.2 = .ok m.2) mapping members := by
  induction mapping generalizing members with
  | nil =>
    obtain rfl := Except.ok.inj h
    exact .nil
  | cons e rest ih =>
    simp only [Mapping.apply, bind, Except.bind] at h
    split at h
    · cases h
    · rename_i value hvalue
      split at h
      · cases h
      · rename_i others hothers
        obtain rfl := Except.ok.inj h
        exact .cons ⟨rfl, hvalue⟩ (ih hothers)

lemma picks_of_instanceInput (h : Mapping.instanceInput x mapping = .ok input) :
    mapping.Picks x input := by
  cases mapping with
  | nil =>
    obtain rfl := Except.ok.inj h
    exact (if_pos rfl).mpr rfl
  | cons e rest =>
    rw [Mapping.Picks, if_neg (by simp)]
    cases hap : Mapping.apply x (e :: rest) with
    | error b => simp [Mapping.instanceInput, hap, bind, Except.bind] at h
    | ok members =>
      refine ⟨members, ?_, forall₂_apply hap⟩
      simpa [Mapping.instanceInput, hap, bind, Except.bind, pure, Except.pure] using h.symm

lemma itemMapping_of_only {sources : List String} {splitter : String} (hmem : splitter ∈ sources)
    (hn : p.node? splitter = some n) (hk : n.kind = .splitter)
    (honly : ∀ s ∈ sources, ∀ m, p.node? s = some m → m.kind = .splitter → s = splitter)
    (h : itemMapping p t sources = .ok mapping) : mapping = p.mappingFor splitter t := by
  induction sources with
  | nil => cases hmem
  | cons a rest ih =>
    obtain ⟨ha, hrest⟩ := List.forall_mem_cons.mp honly
    rw [itemMapping] at h
    cases hm : p.node? a with
    | none =>
      rw [hm] at h
      cases h
    | some m =>
      simp only [hm] at h
      by_cases hkind : m.kind = .splitter
      · rw [if_pos hkind] at h
        rw [← ha m hm hkind]
        exact (Except.ok.inj h).symm
      · rw [if_neg hkind] at h
        refine ih ((List.mem_cons.mp hmem).resolve_left ?_) hrest h
        rintro rfl
        obtain rfl := Option.some.inj (hm.symm.trans hn)
        exact hkind hk

lemma Dealt.update (h : Dealt p r) (hs : r.state? key = some s) (hu : u.status = some st)
    (hst : st = .completed → ∀ n t, p.node? (r.template key) = some n → n.kind = .splitter →
      t ∉ p.fannedOut n.id) : Dealt p (r.update now key u) := by
  intro k n t hn hk ht hc
  rw [Run.Sound.template_update] at hn
  rw [has_update hs hu] at hc
  split at hc
  · rename_i hkey
    exact absurd ht (hst hc n t (hkey ▸ hn) hk)
  · rename_i hkey
    obtain ⟨items, ⟨a, ha, hac, hout⟩, hreg, halone⟩ := h k n t hn hk ht hc
    refine ⟨items, ⟨a, ?_, hac, hout⟩, by rwa [Run.instances_update], fun other ho hother => ?_⟩
    · exact (Run.state?_update_of_ne (Ne.symm hkey)).trans ha
    · rw [Run.Sound.template_update, Run.Sound.template_update] at ho
      rw [has_update hs hu] at hother
      split at hother
      · rename_i hother'
        subst hother'
        exact absurd ht (hst hother n t (ho ▸ hn) hk)
      · exact halone other ho hother

lemma completed_before_spawn {targets : List String} (hs : r.state? key = some s) (hne : k ≠ key)
    (hc : (r.after now (.spawn key targets items)).Has k .completed) : r.Has k .completed := by
  have hfan := Run.state?_fanned_of_some targets items hs
  rw [Run.after, has_update hfan rfl, if_neg (Ne.symm hne), has_fanned] at hc
  exact hc.resolve_right (by simp)

lemma Dealt.not_completed (h : Dealt p r) (hn : p.node? (r.template key) = some n)
    (hk : n.kind = .splitter) (hf : r.Spawnable (p.fannedOut n.id) items)
    (ht : t ∈ p.fannedOut n.id) : ¬ r.Has key .completed := by
  -- No key of a splitter has dealt while what it fans out has no instances.
  intro hc
  obtain ⟨_, hdeals⟩ := h key n t hn hk ht hc
  have hnone := Run.hasInstances_eq_false.mp (hf.whole t ht)
  rw [hdeals.registered] at hnone
  cases hnone

lemma Dealt.spawn (hwf : p.WellFormed) (hso : r.Sound p) (hs : r.state? key = some s)
    (hr : s.status = .running) (hn : p.node? (r.template key) = some n) (hk : n.kind = .splitter)
    (hf : r.Spawnable (p.fannedOut n.id) items) (h : Dealt p r) :
    Dealt p (r.after now (.spawn key (p.fannedOut n.id) items)) := by
  have hx : r.Allowed p (.spawn key (p.fannedOut n.id) items) :=
    .spawn items hs hr hn hk (fun t ht => (Plan.mem_fannedOut.mp ht).1) hf
  have htemp : ∀ {k}, r.Has k .completed →
      (r.after now (.spawn key (p.fannedOut n.id) items)).template k = r.template k := by
    rintro k ⟨a, ha, -⟩
    exact hso.template_after hwf.child_mem hx (Run.mem_keys_of_state? ha)
  have hkey : (r.after now (.spawn key (p.fannedOut n.id) items)).template key = r.template key :=
    hso.template_after hwf.child_mem hx (Run.mem_keys_of_state? hs)
  intro k m t hm hmk ht hc
  by_cases hkk : k = key
  · subst hkk
    rw [hkey] at hm
    obtain rfl := Option.some.inj (hn.symm.trans hm)
    have hfan := Run.state?_fanned_of_some (p.fannedOut n.id) items hs
    refine ⟨items, ⟨_, (Run.state?_update hfan).trans (if_pos rfl), rfl, rfl⟩, ?_, ?_⟩
    · rw [Run.after, Run.instances_update, Run.find?_instances_fanned hf, if_pos ht]
    · intro other ho hother
      by_contra hne
      have hold := completed_before_spawn hs hne hother
      rw [htemp hold, hkey] at ho
      exact h.not_completed (ho ▸ hn) hk hf ht hold
  · have hold := completed_before_spawn hs hkk hc
    rw [htemp hold] at hm
    obtain ⟨old, ⟨a, ha, hac, hout⟩, hreg, halone⟩ := h k m t hm hmk ht hold
    refine ⟨old, ⟨a, state?_after_of_completed hx ha hac, hac, hout⟩,
      find?_instances_after hx hreg, fun other ho hother => ?_⟩
    by_cases hok : other = key
    · -- The splitter that fans out is another node than the one that has dealt.
      subst hok
      rw [hkey, htemp hold] at ho
      obtain rfl := Option.some.inj (hn.symm.trans (ho ▸ hm))
      exact absurd hold (h.not_completed hm hk hf ht)
    · have hother' := completed_before_spawn hs hok hother
      exact halone other (by rw [← htemp hother', ho, htemp hold]) hother'

lemma Worked.dealt (hwf : p.WellFormed) (hso : r.Sound p) (h : Worked p r n key input ws o)
    (hs : r.Has key .running) (hn : p.node? (r.template key) = some n) (hd : Dealt p r) :
    Dealt p (r.afterAll now ws) := by
  obtain ⟨s, hs, hr⟩ := hs
  have hmoved : ∀ {u : NodeUpdate} {st : Status}, u.status = some st →
      (st = .completed → n.kind = .splitter → p.fannedOut n.id = []) →
      Dealt p (r.update now key u) := by
    intro u st hu hst
    refine hd.update hs hu fun hc m t hm hk ht => ?_
    obtain rfl := Option.some.inj (hn.symm.trans hm)
    simp [hst hc hk] at ht
  cases h with
  | sent => exact hd
  | parked | unsplit | rejected | uncollected => exact hmoved rfl (by simp)
  | whole _ _ hnil => exact hmoved rfl fun _ _ => hnil
  | collected hk => exact hmoved rfl fun _ hk' => by simp [hk] at hk'
  | split hk _ _ hf =>
    rw [Run.afterAll_cons, Run.afterAll_nil]
    exact hd.spawn hwf hso hs hr hn hk hf

lemma Dealt.claimed (hd : Dealt p r) (hs : r.Has key source) :
    Dealt p (r.update now key (.toStatus .running)) := by
  obtain ⟨s, hs, _⟩ := hs
  exact hd.update hs rfl (by simp)

lemma Interrupted.dealt (h : Interrupted now r n key source ws) (hd : Dealt p r) :
    Dealt p (r.afterAll now ws) := by
  cases h with
  | unclaimed => exact hd
  | claimed hs => exact hd.claimed hs

section Messages

variable (hwf : p.WellFormed) (hso : r.Sound p) (hd : Dealt p r)
include hwf hso hd

lemma Started.dealt (h : Started p now r n key input source ws o)
    (hn : p.node? (r.template key) = some n) : Dealt p (r.afterAll now ws) := by
  cases h with
  | skipped => exact hd
  | worked hs hw =>
    rw [Run.afterAll_cons, Run.after]
    exact Worked.dealt hwf hso.update hw (has_claimed now hs)
      (by rwa [Run.Sound.template_update]) (hd.claimed hs)

lemma FiredSome.dealt {l : List String} (h : FiredSome p now snap n mapping r l ws)
    (hn : p.node? t = some n) (hl : ∀ k ∈ l, k ∈ Keyed.keys r.states ∧ r.template k = t) :
    Dealt p (r.afterAll now ws) := by
  refine h.induct (P := fun r ws => Dealt p r → Dealt p (r.afterAll now ws)) hwf hso hn hl
    (fun _ hd => hd) Interrupted.dealt (fun hso hn' hw ih hd => ?_) hd
  rw [Run.afterAll_append]
  exact ih (hw.dealt hwf hso hd hn')

lemma Handled.dealt (hf : Fit p r) (h : Handled p now r m ws o) : Dealt p (r.afterAll now ws) := by
  -- No splitter is at work between two messages, and so answers complete none.
  cases h with
  | walked | strayed | missing | hollow | ignored | reconciled => exact hd
  | instances hn hi hne hm hfired =>
    exact hfired.firedSome.dealt hwf hso hd hn fun k hk => hso.known_instanceText hk
  | whole hn hi hin hs =>
    refine hs.dealt hwf hso hd ?_
    rwa [hso.template_node (Plan.mem_nodeIds_iff.mpr ⟨_, hn⟩)]
  | @reported key c notes hs hnotes =>
    have hidle : ∀ n t, p.node? (r.template key) = some n → n.kind = .splitter →
        t ∉ p.fannedOut n.id := fun n t hn hk => absurd hs (hf.swift hn hk).1
    obtain ⟨s, hs, _⟩ := hs
    have hrow : r.afterAll now (.move key (Engine.reported c) :: notes) =
        r.update now key (Engine.reported c) := afterAll_notes hnotes
    rw [hrow]
    exact hd.update hs (reported_status c).1 fun _ => hidle
  | @resumed key x hs =>
    have hidle : ∀ n t, p.node? (r.template key) = some n → n.kind = .splitter →
        t ∉ p.fannedOut n.id := fun n t hn hk => absurd hs (hf.swift hn hk).2
    obtain ⟨s, hs', _⟩ := has_claimed now hs
    refine (hd.claimed hs).update hs' rfl fun _ => ?_
    rwa [Run.Sound.template_update]
  | retried hs hst hn hin hw => exact hw.dealt hwf hso hd hn

lemma Faulted.dealt (h : Faulted p now r m ws) : Dealt p (r.afterAll now ws) := by
  cases h with
  | unwritten => exact hd
  | instances hn hi hm hf =>
    exact hf.dealt hwf hso hd hn fun k hk => hso.known_instanceText hk
  | whole hn hi hs => exact hs.dealt hd
  | resumed hs => exact hd.claimed hs
  | retried hn hs => exact hs.dealt hd

omit hso hd in
lemma endures_dealt : Endures p (Dealt p) where
  handled hso _ hf _ hm _ hd := hm.dealt hwf hso hd hf
  faulted hso _ _ _ hm _ hd := hm.dealt hwf hso hd

end Messages

lemma Stock.and {K : Plan → Run → Prop} (h : Stock I R)
    (hborn : ∀ (id : String) (v : FlowVersion) (trigger : Trigger) (entityId : Option String)
      (now : Instant), K v.plan (newRun id v trigger entityId now))
    (hk : ∀ {p : Plan}, p.WellFormed → Endures p (K p)) : Stock (fun p r => I p r ∧ K p r) R where
  born id v trigger entityId now hwf :=
    ⟨h.born id v trigger entityId now hwf, hborn id v trigger entityId now⟩
  endures hwf := (h.endures hwf).and (hk hwf)
  lasts := h.lasts
  sends hwf hso hf hq hm hl hj := h.sends hwf hso hf hq hm hl hj.1

lemma dealt_newRun {v : FlowVersion} {id : String} {trigger : Trigger} {entityId : Option String} :
    Dealt v.plan (newRun id v trigger entityId now) :=
  fun _ _ _ _ _ _ hc => absurd (has_newRun hc) (by simp)

lemma stock_elements : Stock (fun p r => (Supplied p r ∧ Sown p r) ∧ Dealt p r) Serves :=
  stock_supplies.and (fun _ _ _ _ _ => dealt_newRun) endures_dealt

/-- However operations on however many runs follow one another, and whether they return or fail:
each request for an instance of a worker with one splitter among its sources carries the element at
the index of the instance, or what the mapping of the edge from the splitter makes of it. The list is
that of the only key of the splitter that is completed. -/
theorem instances_carry_elements {w : World} {ops : List (Engine × Operation)} (hw : Fresh w)
    (hops : ∀ op ∈ ops, ¬ op.2.IsFiring) :
    ∀ s ∈ (afterOperations w ops).sent, ∃ r v,
      (afterOperations w ops).store.run? s.request.runId = some r ∧
      (afterOperations w ops).store.version? r.versionId = some v ∧
      ∀ (k : InstanceKey) (worker splitter : PlanNode),
        r.instance? s.request.nodeKey = some k → v.plan.node? k.template = some worker →
        worker.kind = .worker → v.plan.node? splitter.id = some splitter →
        splitter.kind = .splitter → splitter.id ∈ v.plan.parents worker.id →
        (∀ source ∈ v.plan.parents worker.id, ∀ m, v.plan.node? source = some m →
          m.kind = .splitter → source = splitter.id) →
        ∃ (key : String) (items : List Json) (i : Nat) (x : Json), r.template key = splitter.id ∧
          Deals r key worker.id items ∧ k.index = i ∧ items[i]? = some x ∧
          (v.plan.mappingFor splitter.id worker.id).Picks x s.request.input := by
  intro s hs
  have hstocked := stocked_afterOperations stock_elements hw.stocked hops
  obtain ⟨r, v, hr, hv, hserves⟩ := hstocked.sent s hs
  obtain ⟨v', hv', hstands⟩ := hstocked.row hr
  obtain rfl := Option.some.inj (hv.symm.trans hv')
  refine ⟨r, v, hr, hv, fun k worker splitter hk hn hkind hsplitter hsplits hparent honly => ?_⟩
  have hwf := hstocked.compiled hv
  obtain ⟨hreg, htext⟩ := (Run.instance?_eq_some_iff hstands.sound.instances_nodup).mp hk
  have hid := hwf.id_eq hn
  cases hserves with
  | whole hm =>
    -- The request is for an instance, and no node is named like one.
    exact absurd (htext ▸ Plan.mem_nodeIds_iff.mpr ⟨_, hm⟩) (hstands.sound.instance_ne hreg)
  | @each m k' x mapping hm hw' hk' ht hx hmap hin =>
    obtain rfl := InstanceKey.text_injective (ht.trans htext.symm)
    obtain ⟨key, q, a, items, hq, hqkind, hchild, ha, hac, hout, i, hi, hget⟩ := hx
    have hqid := hwf.id_eq hq
    have hown : r.template key = splitter.id :=
      honly _ (by rw [hid, hwf.parents_iff, ← hqid]; exact hchild) q hq hqkind
    have hfan : worker.id ∈ v.plan.fannedOut q.id :=
      Plan.mem_fannedOut.mpr ⟨hid ▸ hchild, by simp [Plan.isCollector, hid, hn, hkind]⟩
    obtain ⟨list, hdeals⟩ := hstands.holds.2 key q worker.id hq hqkind hfan ⟨a, ha, hac⟩
    obtain ⟨b, hb, _, hbout⟩ := hdeals.completed
    obtain rfl := Option.some.inj (ha.symm.trans hb)
    obtain rfl := Json.arr.inj (hout.symm.trans hbout)
    refine ⟨key, items, i, x, hown, hdeals, hi, hget, ?_⟩
    rw [← hid] at hmap
    rw [← itemMapping_of_only hparent hsplitter hsplits honly hmap]
    exact picks_of_instanceInput hin

def namesFannedOut : Canvas where
  nodes? := some [.bare "split" .splitter [("array_path", .str "items")],
    .bare "each" .worker [("webhook_url", .str "http://worker")], .bare "join" .collector []]
  edges? := some [.bare "split" "each" [("text", "name")], .bare "each" "join" []]

def listOfNames : Keyed Json :=
  [("items", .arr [.obj [("name", .str "a")], .obj [("name", .str "b")]])]

def instanceRetried : List Call := [.callback "each_1" (.failure "no"), .retry "each_1"]

theorem element_of_retried_instance : ∃ (id : String) (w : World) (s : Sending) (r : Run)
    (v : FlowVersion) (key : String) (items : List Json) (x : Json),
    namesFannedOut.compile [] = .ok v.plan ∧
    w = afterOperations (.ofCanvas namesFannedOut)
      ((accepting, .start "version" .byHand none (some listOfNames)) ::
        instanceRetried.map fun c => (accepting, .call id c)) ∧
    w.sent[2]? = some s ∧ s.request.nodeKey = "each_1" ∧
    w.store.run? s.request.runId = some r ∧ w.store.version? r.versionId = some v ∧
    r.template key = "split" ∧ Deals r key "each" items ∧ items[1]? = some x ∧
    (v.plan.mappingFor "split" "each").Picks x s.request.input ∧
    s.request.input = .obj [("text", .str "b")] := by
  have hc := Canvas.compile_of_checks (c := namesFannedOut) (by decide +kernel) (by decide +kernel)
    (by decide +kernel)
  have hw : Fresh (.ofCanvas namesFannedOut) := fresh_ofCanvas hc
  obtain ⟨splitter, hsplitter, hsid, hskind⟩ := exists_of_any
    (x := (Plan.ofCanvas namesFannedOut []).node? "split")
    (P := fun n => n.id = "split" ∧ n.kind = .splitter) (by decide +kernel)
  obtain ⟨worker, hworker, hwid, hwkind, hsources⟩ := exists_of_any
    (x := (Plan.ofCanvas namesFannedOut []).node? "each")
    (P := fun n => n.id = "each" ∧ n.kind = .worker ∧
      (Plan.ofCanvas namesFannedOut []).parents "each" = ["split"]) (by decide +kernel)
  obtain ⟨⟨id, w₁⟩, hstart, w, hplay, s, hsent, hkey, hinput, r, hr, hk, v, hv, hplan⟩ :=
    exists_of_any
      (x := accepting.startFor 20 "version" .byHand none (some listOfNames)
        (.ofCanvas namesFannedOut))
      (P := fun x => ∃ w ∈ accepting.playFor 20 x.1 instanceRetried x.2,
        ∃ s ∈ w.sent[2]?, s.request.nodeKey = "each_1" ∧
          s.request.input = .obj [("text", .str "b")] ∧
          ∃ r ∈ w.store.run? s.request.runId, r.instance? "each_1" = some ⟨"each", 1⟩ ∧
            ∃ v ∈ w.store.version? r.versionId, v.plan = .ofCanvas namesFannedOut [])
      (by decide +kernel)
  have hend := afterOperations_of_startFor hstart hplay
  have hops : ∀ op ∈ (accepting, Operation.start "version" .byHand none (some listOfNames)) ::
      instanceRetried.map fun c => (accepting, .call id c), ¬ op.2.IsFiring := by
    simp [Operation.IsFiring, instanceRetried]
  obtain ⟨r', v', hr', hv', hcarries⟩ :=
    instances_carry_elements hw hops s (hend ▸ List.mem_of_getElem? hsent)
  rw [hend] at hr' hv'
  obtain rfl := Option.some.inj (hr.symm.trans hr')
  obtain rfl := Option.some.inj (hv.symm.trans hv')
  rw [← hplan] at hsplitter hworker hsources
  rw [← hwid] at hsources
  obtain ⟨key, items, i, x, hown, hdeals, hi, hget, hpicks⟩ :=
    hcarries ⟨"each", 1⟩ worker splitter (hkey ▸ hk) hworker hwkind (hsid ▸ hsplitter) hskind
      (by simp [hsources, hsid]) (by simp [hsources, hsid])
  obtain rfl : i = 1 := Int.ofNat.inj hi.symm
  rw [hsid] at hown hpicks
  rw [hwid] at hdeals hpicks
  exact ⟨id, w, s, r, v, key, items, x, hplan ▸ hc, hend.symm, hsent, hkey, hr, hv, hown, hdeals,
    hget, hpicks, hinput⟩

end Engine

end Workflow
