import Workflow.Proofs.Engine.Awaited
import Workflow.Proofs.Store.History

/-! Several orchestrators work on a run at once, each with a queue of its own. Whatever the order of
their steps, no join is lost and no node starts twice. -/

namespace Workflow.Engine

open Run (Lawful)

inductive Answering (r : Run) : Message → Prop where
  | report {key} (c : Callback) (h : r.Has key .running) : Answering r (.callback key c)
  | input {key} (x : Json) (h : r.Has key .waitingForUser) : Answering r (.resume key x)

/-- The worlds and queues of orchestrators that share a store: one of them starts the run, and then
each takes the first message of its own queue and handles it as a whole, or is given an answer to
the run. Nothing else touches the row and the changes in the log. -/
inductive Shared {ι : Type} [DecidableEq ι] (p : Plan) (id : String) :
    World → (ι → List Message) → Prop where
  | started {versionId v trigger entityId input w s i}
      (hv : w.store.version? versionId = some v) (hp : v.plan = p) (hr : w.rival = none)
      (hc : Store.createRun w.now (created w v trigger entityId input) w.store = .ok s)
      (hid : (created w v trigger entityId input).id = id)
      (hnew : ∀ key, w.store.changes id key = []) :
      Shared p id (withCreated w (created w v trigger entityId input))
        (Function.update (fun _ => []) i (p.entryNodes.map .fire))
  | handled {settings queues w w' i m rest o} (h : Shared p id w queues)
      (hq : queues i = m :: rest) (hs : step settings id m w = .ok o w') :
      Shared p id w' (Function.update queues i (rest ++ o.messages))
  | answered {queues w r m} (h : Shared p id w queues) (i : ι) (hr : w.store.run? id = some r)
      (hm : Answering r m) : Shared p id w (Function.update queues i (queues i ++ [m]))
  | elsewhere {queues w w'} (h : Shared p id w queues)
      (hrow : w'.store.run? id = w.store.run? id)
      (hv : w'.store.version? = w.store.version?)
      (hlog : ∀ key, w'.store.changes id key = w.store.changes id key) (hr : w'.rival = none) :
      Shared p id w' queues

variable {ι : Type} [DecidableEq ι] {p : Plan} {id : String} {w w' : World} {r : Run}
  {queues : ι → List Message} {i : ι} {m : Message} {rest out q : List Message}

def AttendedBy (p : Plan) (r : Run) (queues : ι → List Message) : Prop :=
  ∃ q, (∀ m ∈ q, ∃ i, m ∈ queues i) ∧ Attended p r q

omit [DecidableEq ι] in
lemma AttendedBy.mono {queues' : ι → List Message} (h : AttendedBy p r queues)
    (hsub : ∀ i, queues i ⊆ queues' i) : AttendedBy p r queues' := by
  obtain ⟨q, hq, hj⟩ := h
  refine ⟨q, fun m hm => ?_, hj⟩
  obtain ⟨i, hi⟩ := hq m hm
  exact ⟨i, hsub i hi⟩

lemma AttendedBy.step {ws : List Write} {o : Outcome} {now : Instant} (hwf : p.WellFormed)
    (hso : r.Sound p) (h : AttendedBy p r queues) (hq : queues i = m :: rest)
    (hm : Handled p now r m ws o) (hl : Lawful p now r ws) :
    AttendedBy p (r.afterAll now ws) (Function.update queues i (rest ++ o.messages)) := by
  obtain ⟨q, hsub, hj⟩ := h
  have hcons : q ⊆ m :: q.filter (· ≠ m) := by
    intro a ha
    by_cases he : a = m
    · exact List.mem_cons.mpr (.inl he)
    · exact List.mem_cons_of_mem _ (List.mem_filter.mpr ⟨ha, by simpa using he⟩)
  refine ⟨q.filter (· ≠ m) ++ o.messages, fun a ha => ?_,
    (hj.mono hcons).step hwf hso hm hl⟩
  rcases List.mem_append.mp ha with ha | ha
  · -- Another message of the handler's queue is still in it, and the other queues are the same.
    obtain ⟨ha, hne⟩ := List.mem_filter.mp ha
    obtain ⟨j, hj⟩ := hsub a ha
    refine ⟨j, ?_⟩
    by_cases he : j = i
    · subst he
      rw [hq] at hj
      have hrest : a ∈ rest := (List.mem_cons.mp hj).resolve_left (by simpa using hne)
      simp [hrest]
    · rwa [Function.update_of_ne he]
  · exact ⟨i, by simp [ha]⟩

lemma not_open_of_attended {n : String} (h : Attended p r []) (hn : n ∈ p.nodeIds)
    (hr : r.Ready p n) (hfull : ∀ s ∈ p.parents n, ¬ r.Hollow s) : ¬ r.Open n := by
  intro hopen
  obtain ⟨s, hs, hh, _⟩ := (h n hn hopen hr).hollow_source
  exact hfull s hs hh

lemma narrated_created {v : FlowVersion} {trigger : Trigger} {entityId : Option String}
    {input : Option (Keyed Json)}
    (hnew : ∀ key, w.store.changes (created w v trigger entityId input).id key = []) :
    (created w v trigger entityId input).Narrated
      (withCreated w (created w v trigger entityId input)).store.events := by
  intro key
  have hlog : changesIn (created w v trigger entityId input).id key
      (withCreated w (created w v trigger entityId input)).store.events = [] := by
    refine (Store.changesIn_started _ _ _).trans ?_
    rw [← Store.changes_eq]
    exact hnew key
  rw [hlog]
  cases hs : (created w v trigger entityId input).state? key with
  | none =>
    simp only [Run.statusAt, hs]
    exact .absent
  | some s =>
    obtain ⟨n, _, he⟩ := List.mem_map.mp (Keyed.mem_of_find? hs)
    obtain rfl := (Prod.mk.inj he).2
    simp only [Run.statusAt, hs]
    exact .present .nil

section Invariant

variable (hwf : p.WellFormed)
include hwf

lemma Shared.invariant (h : Shared p id w queues) : ∃ r, w.Hosts id p r ∧ r.Sound p ∧
    r.Narrated w.store.events ∧ AttendedBy p r queues := by
  induction h with
  | @started versionId v trigger entityId input w s i hv hp hr hc hid hnew =>
    subst hp hid
    obtain ⟨hnone, _⟩ := Store.createRun_ok hc
    exact ⟨_, hosts_withCreated hv hr hnone, newRun_sound hwf _ _ _ _, narrated_created hnew,
      v.plan.entryNodes.map .fire, fun m hm => ⟨i, by simpa using hm⟩, attended_newRun hwf⟩
  | @handled settings queues w w' i m rest o h hq hs ih =>
    obtain ⟨r, hhosts, hso, hn, hj⟩ := ih
    obtain ⟨ws, rfl, _, hm, hl⟩ := (step_ends hwf hhosts hso m rest).ok hs
    exact ⟨_, hhosts.recordAll ws, hso.afterAll hwf.child_mem hl, narrated_recordAll hhosts hl hn,
      hj.step hwf hso hq hm hl⟩
  | @answered queues w r m h i hr hm ih =>
    obtain ⟨r, hhosts, hso, hn, hj⟩ := ih
    refine ⟨r, hhosts, hso, hn, hj.mono fun j => ?_⟩
    by_cases he : j = i
    · subst he
      simp
    · rw [Function.update_of_ne he]
      exact List.Subset.refl _
  | @elsewhere queues w w' h hrow hv hlog hr ih =>
    obtain ⟨r, hhosts, hso, hn, hj⟩ := ih
    refine ⟨r, ⟨hrow.trans hhosts.row, by rw [hv]; exact hhosts.version, hr⟩, hso, fun key => ?_,
      hj⟩
    have hkey := hlog key
    rw [Store.changes_eq, Store.changes_eq] at hkey
    rw [hhosts.id_eq, hkey, ← hhosts.id_eq]
    exact hn key

end Invariant

/-- However the steps of orchestrators that share a run are interleaved, every key comes from
pending by allowed moves and leaves it at most once. When all queues are empty, a node whose sources
are all done is not open, unless one of them was fanned out over nothing. -/
theorem no_join_lost_nor_start_doubled {c : Canvas} {catalogue : Catalogue}
    (hc : c.compile catalogue = .ok p) (h : Shared p id w queues) :
    ∃ r, w.store.run? id = some r ∧
      (∀ key s, r.state? key = some s → Chain .pending (w.store.changes id key) s.status) ∧
      (∀ key, (w.store.changes id key).countP (fun e => decide (e.tellsFrom .pending)) ≤ 1) ∧
      ((∀ i, queues i = []) → ∀ n ∈ p.nodeIds, r.Ready p n →
        (∀ s ∈ p.parents n, ¬ r.Hollow s) → ¬ r.Open n) := by
  obtain ⟨r, hhosts, hso, hn, q, hq, hj⟩ := h.invariant (Canvas.compile_wellFormed hc)
  refine ⟨r, hhosts.row, fun key s hs => ?_, fun key => ?_, fun hempty n hmem hr hfull => ?_⟩
  · rw [Store.changes_eq, ← hhosts.id_eq]
    exact hn.chain hs
  · rw [Store.changes_eq, ← hhosts.id_eq]
    exact (hn key).leaves_pending_once
  · have hnil : q = [] := by
      rw [List.eq_nil_iff_forall_not_mem]
      intro m hm
      obtain ⟨i, hi⟩ := hq m hm
      rw [hempty i] at hi
      cases hi
    exact not_open_of_attended (hnil ▸ hj) hmem hr hfull

inductive Deed (ι : Type) where
  | handle (i : ι)
  | answer (i : ι) (m : Message)

instance (r : Run) (m : Message) : Decidable (Answering r m) :=
  match m with
  | .callback key c => decidable_of_iff (r.Has key .running)
      ⟨.report c, fun h => by cases h; assumption⟩
  | .resume key x => decidable_of_iff (r.Has key .waitingForUser)
      ⟨.input x, fun h => by cases h; assumption⟩
  | .walk _ | .fire _ | .retry _ | .reconcile => isFalse fun h => by cases h

def Deed.play (settings : Settings) (id : String) (w : World) (queues : ι → List Message) :
    Deed ι → Option (World × (ι → List Message))
  | .handle i =>
    match queues i with
    | [] => none
    | m :: rest =>
      match step settings id m w with
      | .ok o w' => some (w', Function.update queues i (rest ++ o.messages))
      | .error _ _ => none
  | .answer i m =>
    match w.store.run? id with
    | none => none
    | some r =>
      if Answering r m then some (w, Function.update queues i (queues i ++ [m])) else none

def playDeeds (settings : Settings) (id : String) :
    List (Deed ι) → World → (ι → List Message) → Option (World × (ι → List Message))
  | [], w, queues => some (w, queues)
  | d :: rest, w, queues =>
    (d.play settings id w queues).bind fun x => playDeeds settings id rest x.1 x.2

def enterFor (versionId : String) (i : ι) (w : World) :
    Option (String × World × (ι → List Message)) :=
  (w.store.version? versionId).bind fun v =>
    let r := created w v .byHand none none
    match Store.createRun w.now r w.store with
    | .ok _ =>
      some (r.id, withCreated w r, Function.update (fun _ => []) i (v.plan.entryNodes.map .fire))
    | .error _ => none

lemma Shared.of_enterFor {versionId : String} {v : FlowVersion}
    (hv : w.store.version? versionId = some v) (hp : v.plan = p) (hr : w.rival = none)
    (hnew : w.store.events = []) (h : enterFor versionId i w = some (id, w', queues)) :
    Shared p id w' queues := by
  rw [enterFor, hv, Option.bind_some] at h
  dsimp only at h
  split at h
  · rename_i s hc
    obtain ⟨hid, h⟩ := Prod.mk.inj (Option.some.inj h)
    obtain ⟨rfl, rfl⟩ := Prod.mk.inj h
    subst hp
    exact .started hv rfl hr hc hid fun key => by rw [Store.changes_eq, hnew]; rfl
  · cases h

lemma Shared.of_playDeeds {settings : Settings} {deeds : List (Deed ι)}
    {queues' : ι → List Message} (h : Shared p id w queues)
    (hp : playDeeds settings id deeds w queues = some (w', queues')) : Shared p id w' queues' := by
  induction deeds generalizing w queues with
  | nil =>
    obtain ⟨rfl, rfl⟩ := Prod.mk.inj (Option.some.inj hp)
    exact h
  | cons d deeds ih =>
    obtain ⟨⟨w₁, queues₁⟩, hd, hrest⟩ := Option.bind_eq_some_iff.mp hp
    refine ih ?_ hrest
    cases d with
    | handle i =>
      rw [Deed.play] at hd
      split at hd
      · cases hd
      · rename_i m rest hq
        split at hd
        · rename_i o w₂ hs
          obtain ⟨rfl, rfl⟩ := Prod.mk.inj (Option.some.inj hd)
          exact .handled h hq hs
        · cases hd
    | answer i m =>
      rw [Deed.play] at hd
      split at hd
      · cases hd
      · rename_i r hr
        split at hd
        · rename_i hm
          obtain ⟨rfl, rfl⟩ := Prod.mk.inj (Option.some.inj hd)
          exact .answered h i hr hm
        · cases hd

def workersBeforeJoin : Canvas where
  nodes? := some [.bare "left" .worker [("webhook_url", .str "http://worker")],
    .bare "right" .worker [("webhook_url", .str "http://worker")], .bare "join" .collector []]
  edges? := some [.bare "left" "join" [], .bare "right" "join" []]

def bothWalk : List (Deed Bool) :=
  [.handle false, .handle false,
    .answer false (.callback "left" ⟨.completed, .str "l", none⟩),
    .answer true (.callback "right" ⟨.completed, .str "r", none⟩),
    .handle false, .handle true, .handle false, .handle true, .handle true, .handle false,
    .handle true]

theorem join_fired_twice : ∃ (id : String) (w : World) (queues : Bool → List Message) (r : Run),
    Shared (.ofCanvas workersBeforeJoin []) id w queues ∧ (∀ i, queues i = []) ∧
      w.store.run? id = some r ∧ r.Has "join" .completed ∧
      (w.store.changes id "join").countP (fun e => decide (e.tellsFrom .pending)) ≤ 1 ∧
      ¬ r.Open "join" := by
  -- Both branches are answered, one by each orchestrator, before either walks on: both fire the
  -- join, and it starts once.
  have hc := Canvas.compile_of_checks (c := workersBeforeJoin) (by decide +kernel)
    (by decide +kernel) (by decide +kernel)
  obtain ⟨⟨id, w₀, queues₀⟩, henter, ⟨w, queues⟩, hplay, hempty, r, hr, hjoin, hready, hfull,
      hmem⟩ := exists_of_any (x := enterFor "version" false (.ofCanvas workersBeforeJoin))
      (P := fun x => ∃ y ∈ playDeeds Engine.accepting.settings x.1 bothWalk x.2.1 x.2.2,
        (∀ i, y.2 i = []) ∧ ∃ r ∈ y.1.store.run? x.1, r.Has "join" .completed ∧
          r.Ready (.ofCanvas workersBeforeJoin []) "join" ∧
          (∀ s ∈ Plan.parents (.ofCanvas workersBeforeJoin []) "join", ¬ r.Hollow s) ∧
          "join" ∈ Plan.nodeIds (.ofCanvas workersBeforeJoin [])) (by decide +kernel)
  have hshared : Shared (.ofCanvas workersBeforeJoin []) id w queues :=
    (Shared.of_enterFor rfl rfl rfl rfl henter).of_playDeeds hplay
  obtain ⟨q, hq, _, honce, hclosed⟩ := no_join_lost_nor_start_doubled hc hshared
  obtain rfl := Option.some.inj (hq.symm.trans hr)
  exact ⟨id, w, queues, q, hshared, hempty, hr, hjoin, honce "join",
    hclosed hempty "join" hmem hready hfull⟩

end Workflow.Engine
