import Workflow.Proofs.Engine.Course

/-! What becomes of the list that a splitter is started with: an instance of each child for each
element, unless the row refuses them. -/

namespace Workflow

open Run (Lawful)
open Store (Refuses holdsRevision)

/-- No two splitters share a child, no splitter is the child of another one, and no node is named
like an instance of a splitter's child. -/
structure Plan.Separate (p : Plan) : Prop where
  apart : ∀ {m n : PlanNode} {t : String}, p.node? m.id = some m → p.node? n.id = some n →
    m.kind = .splitter → n.kind = .splitter → t ∈ p.fannedOut m.id → t ∈ p.fannedOut n.id →
    m.id = n.id
  flat : ∀ {m n : PlanNode}, p.node? m.id = some m → p.node? n.id = some n →
    m.kind = .splitter → n.kind = .splitter → n.id ∉ p.children m.id
  named : ∀ {n : PlanNode} {t : String} {i : Nat}, p.node? n.id = some n → n.kind = .splitter →
    t ∈ p.fannedOut n.id → InstanceKey.text ⟨t, i⟩ ∉ p.nodeIds

namespace Engine

def Spun (p : Plan) (r : Run) : Prop :=
  ∀ t, r.hasInstances t = true → ∃ key n, p.node? (r.template key) = some n ∧
    n.kind = .splitter ∧ t ∈ p.children n.id ∧ r.Has key .completed

/-- The list is the key's output, and each child has an instance for each element. -/
structure Spreads (p : Plan) (n : PlanNode) (key : String) (items : List Json) (r r' : Run) :
    Prop where
  completed : ∃ s, r'.state? key = some s ∧ s.status = .completed ∧ s.output = .arr items
  indexed : ∀ t ∈ p.fannedOut n.id, Keyed.find? r'.instances t = some (indices items.length)
  seeded : ∀ t ∈ p.fannedOut n.id, ∀ (i : Nat) (x : Json), items[i]? = some x →
    r'.state? (InstanceKey.text ⟨t, i⟩) = some (.pending x)
  kept : ∀ k ∈ Keyed.keys r.states, k ≠ key → r'.state? k = r.state? k

structure Spoils (key : String) (text : String) (r r' : Run) : Prop where
  failed : ∃ s, r'.state? key = some s ∧ s.status = .failed ∧ s.error = some text
  instances : r'.instances = r.instances
  kept : ∀ k, k ≠ key → r'.state? k = r.state? k

/-- The worlds of a run between two messages of a call, or between two starts of one message. -/
inductive Moment (p : Plan) (id : String) (r₀ : Run) : World → Prop where
  | course {w : World} (h : Course p id r₀ w) : Moment p id r₀ w
  | created {versionId : String} {v : FlowVersion} {trigger : Trigger} {entityId : Option String}
      {input : Option (Keyed Json)} {w : World} {s : Store}
      (hv : w.store.version? versionId = some v) (hp : v.plan = p) (hr : w.rival = none)
      (h₀ : created w v trigger entityId input = r₀) (hid : r₀.id = id)
      (hc : Store.createRun w.now r₀ w.store = .ok s) : Moment p id r₀ (withCreated w r₀)
  | stepped {settings : Settings} {m : Message} {o : Outcome} {w w' : World}
      (h : Moment p id r₀ w) (hs : step settings id m w = .ok o w') : Moment p id r₀ w'
  | delivered {e : Engine} {qs : List Request} {w : World} (h : Moment p id r₀ w) :
      Moment p id r₀ (e.handOver w qs)
  | started {settings : Settings} {r snap : Run} {n : PlanNode} {key : String} {input : Json}
      {source : Status} {o : Outcome} {w w' : World} (h : Moment p id r₀ w)
      (hrow : w.store.run? id = some r) (hid : snap.id = id)
      (hn : p.node? (r.template key) = some n) (hs : r.Has key source)
      (hc : source.canBecome .running = true)
      (hrun : runHandler settings p snap n key input source w = .ok o w') : Moment p id r₀ w'

variable {p : Plan} {now : Instant} {r r₀ r' : Run} {id key k t : String} {w w' : World}
  {n : PlanNode} {x : Write} {input : Json} {items : List Json} {source : Status}
  {ws : List Write} {o : Outcome} {f : Failure}

lemma has_completed_spawned {s : NodeState} {targets : List String} (hs : r.state? key = some s) :
    (r.after now (.spawn key targets items)).Has key .completed := by
  have hfan := Run.state?_fanned_of_some targets items hs
  exact ⟨_, by rw [Run.after, Run.update_eq hfan, Run.state?_moved, if_pos rfl], rfl⟩

lemma lasts_spun (hwf : p.WellFormed) : Lasts p (Spun p) := by
  refine ⟨fun {now r x} hso hx h t ht => ?_⟩
  have hstay : r.hasInstances t = true → ∃ key n, p.node? ((r.after now x).template key) = some n ∧
      n.kind = .splitter ∧ t ∈ p.children n.id ∧ (r.after now x).Has key .completed := by
    intro hold
    obtain ⟨key, n, hn, hk, hc, hdone⟩ := h t hold
    obtain ⟨s, hs, _⟩ := id hdone
    have ht : (r.after now x).template key = r.template key :=
      hso.template_after hwf.child_mem hx (Run.mem_keys_of_state? hs)
    exact ⟨key, n, ht ▸ hn, hk, hc, has_completed_after hx hdone⟩
  obtain ⟨is, hfind⟩ := Run.hasInstances_iff.mp ht
  have hmoved : ∀ key u, Keyed.find? (r.update now key u).instances t = some is →
      r.hasInstances t = true := by
    intro key u hf
    rw [Run.instances_update] at hf
    exact Run.hasInstances_iff.mpr ⟨is, hf⟩
  cases hx with
  | claim | park | complete | fail => exact hstay (hmoved _ _ hfind)
  | note => exact hstay ht
  | @spawn key s n targets items hs hr hn hk hc hsp =>
    have hx : r.Allowed p (.spawn key targets items) := .spawn items hs hr hn hk hc hsp
    rw [Run.after, Run.instances_update, Run.find?_instances_fanned hsp] at hfind
    split at hfind
    · rename_i hmem
      refine ⟨key, n, ?_, hk, hc t hmem, has_completed_spawned hs⟩
      rwa [hso.template_after hwf.child_mem hx (Run.mem_keys_of_state? hs)]
    · exact hstay (Run.hasInstances_iff.mpr ⟨is, hfind⟩)

structure Kept (p : Plan) (id : String) (w : World) (r : Run) : Prop where
  hosts : w.Hosts id p r
  sound : r.Sound p
  spun : Spun p r
  nonneg : 0 ≤ r.revision

lemma Kept.recordAll (hwf : p.WellFormed) (h : Kept p id w r) (hl : Lawful p w.now r ws) :
    Kept p id (w.recordAll id ws) (r.afterAll w.now ws) where
  hosts := h.hosts.recordAll ws
  sound := h.sound.afterAll hwf.child_mem hl
  spun := (lasts_spun hwf).afterAll hwf h.sound hl h.spun
  nonneg := lasts_nonneg.afterAll hwf h.sound hl h.nonneg

lemma spun_newRun {v : FlowVersion} {trigger : Trigger} {entityId : Option String} :
    Spun v.plan (newRun id v trigger entityId now) := by
  intro t ht
  obtain ⟨is, hf⟩ := Run.hasInstances_iff.mp ht
  cases hf

lemma Moment.kept (hwf : p.WellFormed) (h : Moment p id r₀ w) : ∃ r, Kept p id w r := by
  induction h with
  | course h =>
    have he : Endures p fun r => Spun p r ∧ 0 ≤ r.revision := by
      refine Lasts.endures hwf ⟨fun hso hx hj => ⟨?_, ?_⟩⟩
      · exact (lasts_spun hwf).after hso hx hj.1
      · exact lasts_nonneg.after hso hx hj.2
    obtain ⟨r, ht, hspun, hrev⟩ := h.carries hwf he fun v trigger entityId now hp =>
      ⟨hp ▸ spun_newRun, Int.le_refl 0⟩
    exact ⟨r, ht.hosts, ht.sound, hspun, hrev⟩
  | created hv hp hr h₀ hid hc =>
    subst hp h₀ hid
    obtain ⟨hnone, _⟩ := Store.createRun_ok hc
    exact ⟨_, hosts_withCreated hv hr hnone, newRun_sound hwf _ _ _ _, spun_newRun, by rfl⟩
  | @stepped settings m o w w' _ hs ih =>
    obtain ⟨r, hr⟩ := ih
    obtain ⟨ws, rfl, _, _, hl⟩ := (step_ends hwf hr.hosts hr.sound m []).ok hs
    exact ⟨_, hr.recordAll hwf hl⟩
  | delivered _ ih =>
    obtain ⟨r, hr⟩ := ih
    exact ⟨r, hosts_handOver hr.hosts, hr.sound, hr.spun, hr.nonneg⟩
  | @started settings r snap n key input source o w w' _ hrow hid hn hs hc hrun ih =>
    obtain ⟨q, hr⟩ := ih
    obtain rfl := Option.some.inj (hrow.symm.trans hr.hosts.row)
    obtain ⟨s, hstate, hst⟩ := hs
    obtain ⟨ws, rfl, hstarted⟩ := (runHandler_ends hwf hr.hosts hr.sound (hwf.executable hn) hstate
      hc hid).ok hrun
    exact ⟨_, hr.recordAll hwf (hstarted.lawful hn hc)⟩

lemma splitItems_of_path {path : String} (hp : arrayPath n = .str path) (hne : path ≠ "")
    (hi : input.resolveOutput path = .ok (.arr items)) : splitItems n key input = .ok items := by
  rw [splitItems, hp]
  split
  · rename_i he
    exact absurd (Json.str.inj he) hne
  · rename_i he
    obtain rfl := Json.str.inj he
    rw [hi]
    rfl
  · rename_i hstr
    exact absurd rfl (hstr path)

lemma Refuses.of_update {s : NodeState} {u : NodeUpdate} {targets : List String}
    (hs : r.state? key = some s) (h : Refuses (r.update now key u) targets items f) :
    Refuses r targets items f := by
  cases h with
  | «exists» ht hi =>
    rw [(Run.sameHeader_update).id]
    exact .exists ht (Run.hasInstances_update.symm.trans hi)
  | collision ht hj hk => exact .collision ht hj ((Run.mem_keys_update_iff hs).mp hk)

namespace Separate

variable (hwf : p.WellFormed) (hso : r.Sound p) (hsep : p.Separate) (hspun : Spun p r)
include hwf hso hsep hspun

lemma key_eq (hn : p.node? (r.template key) = some n) (hk : n.kind = .splitter)
    (hmem : key ∈ Keyed.keys r.states) : key = n.id := by
  obtain hid := hwf.id_eq hn
  rcases hso.key_cases hmem with hnode | ⟨k, hreg, rfl⟩
  · rw [hid, hso.template_node hnode]
  · rw [Run.template_text hso.instances_nodup hreg] at hn hid
    obtain ⟨is, hf, _⟩ := Run.registered_iff.mp hreg
    obtain ⟨_, m, hm, hkind, hc, _⟩ := hspun k.template (Run.hasInstances_iff.mpr ⟨is, hf⟩)
    have hmid := hwf.id_eq hm
    rw [← hmid] at hm
    rw [← hid] at hn hc
    exact absurd hc (hsep.flat hm hn hkind hk)

lemma spawnable (hn : p.node? (r.template key) = some n) (hk : n.kind = .splitter)
    (hs : r.Has key source) (hne : source ≠ .completed) :
    r.Spawnable (p.fannedOut n.id) items := by
  obtain ⟨s, hstate, _⟩ := id hs
  have hkey := key_eq hwf hso hsep hspun hn hk (Run.mem_keys_of_state? hstate)
  have hnode : p.node? n.id = some n := (hwf.id_eq hn).symm ▸ hn
  have hwhole : ∀ t ∈ p.fannedOut n.id, r.hasInstances t = false := by
    intro t ht
    by_contra hi
    -- A child with instances comes of this splitter, which is not completed yet.
    obtain ⟨key', m, hm, hkind, hc, hdone⟩ := hspun t (by simpa using hi)
    obtain ⟨s', hstate', _⟩ := id hdone
    have hkey' := key_eq hwf hso hsep hspun hm hkind (Run.mem_keys_of_state? hstate')
    have hmnode : p.node? m.id = some m := (hwf.id_eq hm).symm ▸ hm
    have hfan : t ∈ p.fannedOut m.id := Plan.mem_fannedOut.mpr ⟨hc, (Plan.mem_fannedOut.mp ht).2⟩
    have hid := hsep.apart hmnode hnode hkind hk hfan ht
    rw [hkey', hid, ← hkey] at hdone
    exact hne (hs.unique hdone)
  refine ⟨nodup_eraseDups _, hwhole, fun t ht j _ hmem => ?_⟩
  rcases hso.key_cases hmem with hnode' | ⟨k, hreg, he⟩
  · exact hsep.named hnode hk ht hnode'
  · obtain rfl := InstanceKey.text_injective he
    obtain ⟨is, hf, _⟩ := Run.registered_iff.mp hreg
    have hi := Run.hasInstances_iff.mpr ⟨is, hf⟩
    rw [hwhole _ ht] at hi
    cases hi

end Separate

section Worked

variable {q : Run} {s : NodeState} {targets : List String} (hs : q.state? key = some s)
include hs

lemma spoils_update (text : String) : Spoils key text q (q.update now key (.fail text)) where
  failed := ⟨_, by rw [Run.state?_update hs, if_pos rfl], rfl, rfl⟩
  instances := Run.instances_update
  kept _ := Run.state?_update_of_ne

lemma spreads_update (hnil : p.fannedOut n.id = []) :
    Spreads p n key items q (q.update now key (.finish .completed (.arr items))) where
  completed := ⟨_, by rw [Run.state?_update hs, if_pos rfl], rfl, rfl⟩
  indexed t ht := by simp [hnil] at ht
  seeded t ht := by simp [hnil] at ht
  kept _ _ := Run.state?_update_of_ne

lemma spreads_spawn (hsp : q.Spawnable (p.fannedOut n.id) items) :
    Spreads p n key items q (q.after now (.spawn key (p.fannedOut n.id) items)) := by
  have hfan := Run.state?_fanned_of_some (p.fannedOut n.id) items hs
  refine ⟨⟨_, by rw [Run.after, Run.state?_update hfan, if_pos rfl], rfl, rfl⟩, ?_, ?_, ?_⟩
  · intro t ht
    rw [Run.after, Run.instances_update, Run.find?_instances_fanned hsp, if_pos ht]
  · intro t ht i x hx
    have hlt : i < items.length := (List.getElem?_eq_some_iff.mp hx).1
    have hfresh := hsp.fresh t ht i hlt
    have hkey : key ≠ InstanceKey.text ⟨t, i⟩ := by
      rintro rfl
      exact hfresh (Run.mem_keys_of_state? hs)
    have hnone : q.state? (InstanceKey.text ⟨t, i⟩) = none := Keyed.find?_eq_none_iff.mpr hfresh
    rw [Run.after, Run.state?_update_of_ne hkey.symm, Run.state?_fanned, hnone, Option.none_or]
    exact Keyed.find?_of_mem (nodup_keys_spawnedStates hsp.nodup items)
      (mem_spawnedStates.mpr ⟨t, ht, i, x, hx, rfl, rfl⟩)
  · intro k hk hne
    obtain ⟨a, ha⟩ := Run.exists_state hk
    rw [Run.after, Run.state?_update_of_ne hne, ha,
      Run.state?_fanned_of_some (p.fannedOut n.id) items ha]

lemma Worked.fans (now : Instant) (h : Worked p q n key input ws o) (hk : n.kind = .splitter)
    (hi : splitItems n key input = .ok items) :
    o = .walk key ∧
      (q.Spawnable (p.fannedOut n.id) items ∧ Spreads p n key items q (q.afterAll now ws) ∨
        ∃ f, Refuses q (p.fannedOut n.id) items f ∧ Spoils key f.text q (q.afterAll now ws)) := by
  cases h with
  | sent hw | parked hw | uncollected hw | collected hw => simp [hk] at hw
  | unsplit _ he =>
    rw [hi] at he
    cases he
  | whole _ he hnil =>
    obtain rfl := Except.ok.inj (hi.symm.trans he)
    exact ⟨rfl, .inl ⟨⟨hnil ▸ .nil, by simp [hnil], by simp [hnil]⟩, spreads_update hs hnil⟩⟩
  | rejected _ he _ hf =>
    obtain rfl := Except.ok.inj (hi.symm.trans he)
    exact ⟨rfl, .inr ⟨_, hf, spoils_update hs _⟩⟩
  | split _ he _ hsp =>
    obtain rfl := Except.ok.inj (hi.symm.trans he)
    exact ⟨rfl, .inl ⟨hsp, spreads_spawn hs hsp⟩⟩

end Worked

section Claim

variable {s : NodeState} {u : NodeUpdate}

lemma Spreads.of_update (hs : r.state? key = some s)
    (h : Spreads p n key items (r.update now key u) r') :
    Spreads p n key items r r' where
  completed := h.completed
  indexed := h.indexed
  seeded := h.seeded
  kept k hk hne := (h.kept k ((Run.mem_keys_update_iff hs).mpr hk) hne).trans
    (Run.state?_update_of_ne hne)

lemma Spoils.of_update {text : String} (h : Spoils key text (r.update now key u) r') :
    Spoils key text r r' where
  failed := h.failed
  instances := h.instances.trans Run.instances_update
  kept k hne := (h.kept k hne).trans (Run.state?_update_of_ne hne)

end Claim

/-- At every moment of a run, a splitter's key that is started with a list at its path keeps all of
it: if no child has instances and none of the new keys is taken, the key is completed with the list,
and each child has an instance for each element. Otherwise the key fails, and says which instances
or which key stood in the way. On a separate plan nothing does. -/
theorem started_splitter_keeps_list {c : Canvas} {catalogue : Catalogue}
    (hc : c.compile catalogue = .ok p) (h : Moment p id r₀ w) (hrow : w.store.run? id = some r)
    (hrev : holdsRevision (r.revision + 1) = true) {settings : Settings} {snap : Run}
    (hid : snap.id = id) (hn : p.node? (r.template key) = some n) (hk : n.kind = .splitter)
    (hs : r.Has key source) (hcan : source.canBecome .running = true) {path : String}
    (hp : arrayPath n = .str path) (hne : path ≠ "")
    (hi : input.resolveOutput path = .ok (.arr items)) :
    ∃ w' r', runHandler settings p snap n key input source w = .ok (.walk key) w' ∧
      w'.store.run? id = some r' ∧
      (r.Spawnable (p.fannedOut n.id) items → Spreads p n key items r r') ∧
      (¬ r.Spawnable (p.fannedOut n.id) items →
        ∃ f, Refuses r (p.fannedOut n.id) items f ∧ Spoils key f.text r r') ∧
      (p.Separate → r.Spawnable (p.fannedOut n.id) items) := by
  have hwf := Canvas.compile_wellFormed hc
  obtain ⟨q, hkept⟩ := h.kept hwf
  obtain rfl := Option.some.inj (hrow.symm.trans hkept.hosts.row)
  have hsep : p.Separate → r.Spawnable (p.fannedOut n.id) items := fun hsep =>
    Separate.spawnable hwf hkept.sound hsep hkept.spun hn hk hs (by rintro rfl; cases hcan)
  obtain ⟨s, hstate, hst⟩ := hs
  have hsucc : (r.update w.now key (.toStatus .running)).revision = r.revision + 1 :=
    revision_update hstate
  rcases (runHandler_ends hwf hkept.hosts hkept.sound (hwf.executable hn) hstate hcan
      hid).cases with
    ⟨ws, o, hrun, hstarted⟩ | ⟨ws, f, hrun, hbroken⟩
  · have hhost := hkept.hosts.recordAll ws
    cases hstarted with
    | skipped hno => exact absurd ⟨s, hstate, hst⟩ hno
    | @worked ws o _ hw =>
      have hclaimed : (r.update w.now key (.toStatus .running)).state? key = some _ :=
        (Run.state?_update hstate).trans (if_pos rfl)
      obtain ⟨rfl, hend⟩ := hw.fans hclaimed w.now hk (splitItems_of_path hp hne hi)
      refine ⟨_, _, hrun, hhost.row, fun hsp => ?_, fun hno => ?_, hsep⟩
      · rcases hend with ⟨_, hspreads⟩ | ⟨f, hf, _⟩
        · exact hspreads.of_update hstate
        · exact absurd hsp (Refuses.of_update hstate hf).not_spawnable
      · rcases hend with ⟨hsp, _⟩ | ⟨f, hf, hspoils⟩
        · exact absurd ((Run.spawnable_update_iff hstate).mp hsp) hno
        · exact ⟨f, Refuses.of_update hstate hf, hspoils.of_update⟩
  · exfalso
    cases hbroken with
    | unclaimed hno =>
      rw [holds_of_le hkept.nonneg (by omega) hrev] at hno
      cases hno
    | claimed _ _ hno =>
      rw [hsucc, hrev] at hno
      cases hno

def ran {α : Type} : EStateM.Result Failure World α → Option (α × World)
  | .ok a w => some (a, w)
  | .error _ _ => none

lemma ran_eq_some {α : Type} {x : EStateM.Result Failure World α} {a : α × World}
    (h : ran x = some a) : x = .ok a.1 a.2 := by
  cases x with
  | ok => rw [← Option.some.inj h]
  | error => cases h

instance {targets : List String} : Decidable (r.Spawnable targets items) :=
  decidable_of_iff (targets.Nodup ∧ (∀ t ∈ targets, r.hasInstances t = false) ∧
      ∀ t ∈ targets, ∀ j < items.length, InstanceKey.text ⟨t, (j : Nat)⟩ ∉ Keyed.keys r.states)
    ⟨fun h => ⟨h.1, h.2.1, h.2.2⟩, fun h => ⟨h.nodup, h.whole, h.fresh⟩⟩

def listOfTwo : Keyed Json := [("items", .arr [.str "a", .str "b"])]

def firstRow (c : Canvas) : Run :=
  Engine.created (.ofCanvas c) ⟨"version", "flow", c, .ofCanvas c [], none, .epoch2024⟩ .byHand none
    (some listOfTwo)

lemma Moment.of_canvas (c : Canvas) :
    Moment (.ofCanvas c []) "id-1" (firstRow c) (withCreated (.ofCanvas c) (firstRow c)) :=
  .created (show (World.ofCanvas c).store.version? "version" = _ by rfl) rfl rfl rfl
    (by change s!"id-{0 + 1}" = "id-1"; decide +kernel) (by rfl)

theorem list_of_new_run : ∃ (r' : Run) (n : PlanNode) (w' : World),
    Moment (.ofCanvas fanOutBesideWorker []) "id-1" (firstRow fanOutBesideWorker)
        (withCreated (.ofCanvas fanOutBesideWorker) (firstRow fanOutBesideWorker)) ∧
      runHandler accepting.settings (.ofCanvas fanOutBesideWorker []) (firstRow fanOutBesideWorker)
        n "split" (.obj listOfTwo) .pending
        (withCreated (.ofCanvas fanOutBesideWorker) (firstRow fanOutBesideWorker)) =
          .ok (.walk "split") w' ∧
      w'.store.run? "id-1" = some r' ∧
      Spreads (.ofCanvas fanOutBesideWorker []) n "split" [.str "a", .str "b"]
        (firstRow fanOutBesideWorker) r' := by
  have hc := Canvas.compile_of_checks (c := fanOutBesideWorker) (by decide +kernel)
    (by decide +kernel) (by decide +kernel)
  have hm := Moment.of_canvas fanOutBesideWorker
  obtain ⟨n, hn, ht, hk, hp, hsp⟩ :=
    exists_of_any (x := (Plan.ofCanvas fanOutBesideWorker []).node? "split")
      (P := fun n => (Plan.ofCanvas fanOutBesideWorker []).node?
          ((firstRow fanOutBesideWorker).template "split") = some n ∧ n.kind = .splitter ∧
        arrayPath n = .str "items" ∧ (firstRow fanOutBesideWorker).Spawnable
          ((Plan.ofCanvas fanOutBesideWorker []).fannedOut n.id) [.str "a", .str "b"])
      (by decide +kernel)
  have hs : (firstRow fanOutBesideWorker).Has "split" .pending := by decide +kernel
  have hid : (firstRow fanOutBesideWorker).id = "id-1" := by decide +kernel
  have hi : Json.resolveOutput (.obj listOfTwo) "items" =
      .ok (.arr [.str "a", .str "b"]) := by decide +kernel
  obtain ⟨w', r', hrun, hrow, hspreads, _⟩ := started_splitter_keeps_list hc hm (by decide +kernel)
    (by decide +kernel) hid ht hk hs rfl hp (by decide) hi
  exact ⟨r', n, w', hm, hrun, hrow, hspreads hsp⟩

def sharedChild : Canvas where
  nodes? := some [.bare "left" .splitter [("array_path", .str "items")],
    .bare "right" .splitter [("array_path", .str "items")],
    .bare "each" .worker [("webhook_url", .str "http://worker")], .bare "join" .collector []]
  edges? := some [.bare "left" "each" [], .bare "right" "each" [], .bare "each" "join" []]

theorem second_splitter_fails : ∃ (r r' : Run) (n : PlanNode) (w w' : World),
    sharedChild.compile [] = .ok (.ofCanvas sharedChild []) ∧
      Moment (.ofCanvas sharedChild []) "id-1" (firstRow sharedChild) w ∧
      w.store.run? "id-1" = some r ∧
      (Plan.ofCanvas sharedChild []).node? (r.template "right") = some n ∧ n.kind = .splitter ∧
      r.Has "right" .pending ∧ arrayPath n = .str "items" ∧
      Json.resolveOutput (.obj listOfTwo) "items" = .ok (.arr [.str "a", .str "b"]) ∧
      runHandler accepting.settings (.ofCanvas sharedChild []) r n "right"
        (.obj listOfTwo) .pending w = .ok (.walk "right") w' ∧
      w'.store.run? "id-1" = some r' ∧ r'.Has "right" .failed := by
  -- The first splitter has fanned out the child, and so the second one fails on the same list.
  have hc := Canvas.compile_of_checks (c := sharedChild) (by decide +kernel) (by decide +kernel)
    (by decide +kernel)
  obtain ⟨⟨o, w⟩, hfire, r, hr, n, hn, hk, hs, hp, ⟨o', w'⟩, hright, rfl, r', hr', hfailed⟩ :=
    exists_of_any
      (x := ran (step accepting.settings "id-1" (.fire "left")
        (withCreated (.ofCanvas sharedChild) (firstRow sharedChild))))
      (P := fun x => ∃ r ∈ x.2.store.run? "id-1",
        ∃ n ∈ (Plan.ofCanvas sharedChild []).node? (r.template "right"), n.kind = .splitter ∧
          r.Has "right" .pending ∧ arrayPath n = .str "items" ∧
        ∃ y ∈ ran (runHandler accepting.settings (.ofCanvas sharedChild []) r n "right"
          (.obj listOfTwo) .pending x.2),
        y.1 = .walk "right" ∧ ∃ r' ∈ y.2.store.run? "id-1", r'.Has "right" .failed)
      (by decide +kernel)
  exact ⟨r, r', n, w, w', hc, .stepped (.of_canvas sharedChild) (ran_eq_some hfire), hr, hn, hk, hs,
    hp, by decide +kernel, ran_eq_some hright, hr', hfailed⟩

end Engine

end Workflow
