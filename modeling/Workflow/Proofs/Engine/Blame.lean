import Workflow.Proofs.Engine.Entries

/-! The error of a key: that of the last failure which the entries of its run tell of. A key that is
started again after a failure keeps it, whatever comes then. -/

namespace Workflow

open Run (Lawful)

namespace Event

def TellsFailure (key : String) (e : Event) : Prop :=
  e.kind = .nodeStatusChanged ∧ e.nodeKey = some key ∧ e.status = some Status.failed.name

instance (key : String) (e : Event) : Decidable (e.TellsFailure key) :=
  inferInstanceAs (Decidable (_ ∧ _ ∧ _))

def blame? (key : String) (e : Event) : Option String :=
  if e.TellsFailure key then
    match Keyed.find? e.payload "error" with
    | some (.str text) => some text
    | _ => none
  else none

end Event

def blame (key : String) (log : List Event) : Option String :=
  (log.filterMap (Event.blame? key)).getLast?

structure Blamed (r : Run) (log : List Event) : Prop where
  told : ∀ key, (r.state? key).bind (·.error) = blame key log
  failed : ∀ {key s}, r.state? key = some s → s.status = .failed → s.error ≠ none
  spoken : ∀ {key e}, e ∈ log → e.TellsFailure key → e.blame? key ≠ none

variable {p : Plan} {now : Instant} {r : Run} {key k : String} {a t : Status} {s : NodeState}
  {u : NodeUpdate} {x : Write} {ws : List Write} {log es : List Event} {e : Event}
  {error : Option String}

lemma Event.blame?_eq_none (h : ¬ e.TellsFailure key) : e.blame? key = none := if_neg h

lemma Event.tellsFailure_statusChanged :
    (Store.statusChanged now r key a t error).TellsFailure k ↔ key = k ∧ t = .failed := by
  have hname : t.name = Status.failed.name ↔ t = .failed :=
    ⟨Status.name_injective, congrArg Status.name⟩
  simp [TellsFailure, Store.statusChanged, hname]

lemma Event.blame?_statusChanged :
    (Store.statusChanged now r key a t error).blame? k =
      if key = k ∧ t = .failed then error else none := by
  unfold blame?
  simp only [tellsFailure_statusChanged]
  split
  · rename_i h
    obtain ⟨rfl, rfl⟩ := h
    cases error <;> rfl
  · rfl

lemma blame_append : blame key (log ++ es) = (blame key es).or (blame key log) := by
  rw [blame, List.filterMap_append, List.getLast?_append]
  rfl

lemma blame_eq_none_iff : blame key log = none ↔ ∀ e ∈ log, e.blame? key = none := by
  rw [blame, List.getLast?_eq_none_iff, List.filterMap_eq_nil_iff]

lemma blame_singleton : blame key [e] = e.blame? key := by
  cases h : e.blame? key <;> simp [blame, h]

namespace Blamed

lemma silent (h : Blamed r log) (hes : ∀ e ∈ es, e.kind ≠ .nodeStatusChanged) :
    Blamed r (log ++ es) where
  told key := by
    have hnone : blame key es = none :=
      blame_eq_none_iff.mpr fun e he => Event.blame?_eq_none fun ht => hes e he ht.1
    rw [blame_append, hnone, Option.none_or]
    exact h.told key
  failed := h.failed
  spoken he ht := by
    rcases List.mem_append.mp he with he | he
    · exact h.spoken he ht
    · exact absurd ht.1 (hes _ he)

-- Only a change that fails a key gives it an error, and no change takes one away.
lemma update (h : Blamed r log) (hs : r.state? key = some s) (hu : u.status = some t)
    (he : t ≠ .failed ∧ u.error? = none ∨ t = .failed ∧ ∃ text, u.error? = some (some text)) :
    Blamed (r.update now key u) (log ++ r.changeEvents now key u) := by
  have hevents : r.changeEvents now key u = _ := Run.changeEvents_eq hs hu
  have hlast : ∀ k, blame k (r.changeEvents now key u) =
      if key = k ∧ t = .failed then (u.apply now s).error else none := by
    intro k
    rw [hevents, blame_singleton, Event.blame?_statusChanged]
  have hfailed : t = .failed → (u.apply now s).error ≠ none := by
    rintro rfl
    obtain ⟨hno, _⟩ | ⟨_, text, htext⟩ := he
    · exact absurd rfl hno
    · simp [NodeUpdate.apply, htext]
  constructor
  · intro k
    rw [blame_append, hlast, Run.state?_update hs, ← h.told k]
    by_cases hk : key = k
    · subst hk
      obtain ⟨hno, hnone⟩ | ⟨ht, text, htext⟩ := he
      · simp [hno, hs, NodeUpdate.apply, hnone]
      · simp [ht, hs, NodeUpdate.apply, htext]
    · simp [hk]
  · intro k s' hs' hst
    rw [Run.state?_update hs] at hs'
    split at hs'
    · obtain rfl := Option.some.inj hs'
      exact hfailed (by simpa [NodeUpdate.apply, hu] using hst)
    · exact h.failed hs' hst
  · intro k e hmem htell
    rcases List.mem_append.mp hmem with hmem | hmem
    · exact h.spoken hmem htell
    · rw [hevents] at hmem
      obtain rfl := List.mem_singleton.mp hmem
      have hkt := Event.tellsFailure_statusChanged.mp htell
      rw [Event.blame?_statusChanged, if_pos hkt]
      exact hfailed hkt.2

lemma fanned (h : Blamed r log) (targets : List String) (items : List Json) :
    Blamed (r.fanned targets items) log where
  told k := by
    rw [← h.told k, Run.state?_fanned]
    cases hs : r.state? k with
    | some s => rfl
    | none =>
      cases hf : Keyed.find? (spawnedStates targets items) k with
      | none => rfl
      | some s =>
        obtain ⟨_, _, _, _, _, _, rfl⟩ := mem_spawnedStates.mp (Keyed.mem_of_find? hf)
        rfl
  failed {k s} hs hst := by
    rw [Run.state?_fanned] at hs
    cases hold : r.state? k with
    | some s' =>
      rw [hold, Option.some_or] at hs
      exact h.failed (hold.trans hs) hst
    | none =>
      rw [hold, Option.none_or] at hs
      obtain ⟨_, _, _, _, _, _, rfl⟩ := mem_spawnedStates.mp (Keyed.mem_of_find? hs)
      cases hst
  spoken := h.spoken

lemma after (h : Blamed r log) (hx : r.Allowed p x) :
    Blamed (r.after now x) (log ++ r.eventsOf now x) := by
  cases hx with
  | claim hs | park _ hs | complete _ hs => exact h.update hs rfl (.inl ⟨by simp, rfl⟩)
  | fail e hs => exact h.update hs rfl (.inr ⟨rfl, e, rfl⟩)
  | @spawn key s n targets items hs =>
    have hcreated : ∀ e ∈ targets.map fun t =>
        Store.instancesCreated now r t (Store.firstInstances t items.length),
        e.kind ≠ .nodeStatusChanged := by
      simp [Store.instancesCreated]
    rw [Run.eventsOf, ← List.append_assoc]
    exact ((h.silent hcreated).fanned targets items).update (Run.state?_fanned_of_some targets items hs) rfl
      (.inl ⟨by simp, rfl⟩)
  | note he =>
    refine h.silent fun e hmem => ?_
    obtain rfl := List.mem_singleton.mp hmem
    simp [he]

lemma afterAll (h : Blamed r log) (hl : Lawful p now r ws) :
    Blamed (r.afterAll now ws) (log ++ r.entriesOf now ws) := by
  induction hl generalizing log with
  | nil => simpa [Run.entriesOf] using h
  | cons hx _ ih =>
    rw [Run.entriesOf, ← List.append_assoc]
    exact ih (h.after hx)

end Blamed

namespace Engine

variable {w : World} {id : String}

lemma tale_blamed : Tale fun _ r log => Blamed r log where
  born id v trigger entityId now _ := by
    have hstate : ∀ {key s}, (newRun id v trigger entityId now).state? key = some s →
        s = .pending .null := by
      intro key s hs
      obtain ⟨n, _, he⟩ := List.mem_map.mp (Keyed.mem_of_find? hs)
      exact (Prod.mk.inj he).2.symm
    have hempty : Blamed (newRun id v trigger entityId now) [] := by
      refine ⟨fun key => ?_, fun hs hst => ?_, fun hmem => absurd hmem List.not_mem_nil⟩
      · rw [blame_eq_none_iff.mpr fun e he => absurd he List.not_mem_nil, Option.bind_eq_none_iff]
        intro s hs
        rw [hstate hs]
        rfl
      · rw [hstate hs] at hst
        cases hst
    exact hempty.silent (by simp [Store.runStarted])
  kept _ _ hl _ h := h.afterAll hl

/-- Whatever operations there are, and whether they return or fail: the error of a key is that of
its last failure. So the key has one exactly if it is failed, unless it failed before and is not
failed any more. -/
theorem error_of_last_failure (hw : Fresh w) (hlog : ∀ e ∈ w.store.events, e.runId = none)
    (ops : List (Engine × Operation)) (hr : (afterOperations w ops).store.run? id = some r)
    (hs : r.state? key = some s) :
    s.error = blame key ((afterOperations w ops).store.entries id) ∧
      ((s.error ≠ none ↔ s.status = .failed) ↔ s.status = .failed ∨
        ∀ e ∈ (afterOperations w ops).store.entries id, ¬ e.TellsFailure key) := by
  have htells := tale_blamed.afterOperations hw hlog ops
  obtain ⟨v, hv, _⟩ := htells.sane.run hr
  have hblamed := htells.row hr hv
  have htold : s.error = blame key ((afterOperations w ops).store.entries id) := by
    rw [← hblamed.told key, hs]
    rfl
  have hsilent : s.error = none ↔
      ∀ e ∈ (afterOperations w ops).store.entries id, ¬ e.TellsFailure key := by
    rw [htold, blame_eq_none_iff]
    refine forall₂_congr fun e he => ⟨fun hb ht => hblamed.spoken he ht hb, Event.blame?_eq_none⟩
  refine ⟨htold, ?_⟩
  rw [← hsilent]
  by_cases hst : s.status = .failed
  · have herror := hblamed.failed hs hst
    tauto
  · tauto

def soleWorker : Canvas where
  nodes? := some [.bare "work" .worker [("webhook_url", .str "http://worker")]]
  edges? := some []

def secondAttempt : List Call :=
  [.callback "work" ⟨.failed, .null, some "no"⟩, .retry "work",
    .callback "work" ⟨.completed, .str "done", none⟩]

lemma fresh_soleWorker : Fresh (.ofCanvas soleWorker) :=
  fresh_ofCanvas (Canvas.compile_of_checks (by decide +kernel) (by decide +kernel)
    (by decide +kernel))

theorem error_of_first_attempt : ∃ (id : String) (w : World) (r : Run) (s : NodeState),
    w = afterOperations (.ofCanvas soleWorker) ((accepting, .start "version" .byHand none none) ::
      (secondAttempt.take 2).map fun c => (accepting, .call id c)) ∧
    w.store.run? id = some r ∧ r.state? "work" = some s ∧ s.status = .running ∧
    s.error = some "no" ∧ s.error = blame "work" (w.store.entries id) ∧
    ((s.error ≠ none ↔ s.status = .failed) ↔ s.status = .failed ∨
      ∀ e ∈ w.store.entries id, ¬ e.TellsFailure "work") := by
  -- The worker works again, with the error of its first attempt.
  obtain ⟨⟨id, w₁⟩, hstart, w, hplay, r, hr, s, hs, hst, herror⟩ := exists_of_any
    (x := accepting.startFor 20 "version" .byHand none none (.ofCanvas soleWorker))
    (P := fun x => ∃ w ∈ accepting.playFor 20 x.1 (secondAttempt.take 2) x.2,
      ∃ r ∈ w.store.run? x.1, ∃ s ∈ r.state? "work", s.status = .running ∧ s.error = some "no")
    (by decide +kernel)
  have hend := afterOperations_of_startFor hstart hplay
  have hlast := error_of_last_failure fresh_soleWorker (by simp [World.ofCanvas])
    ((accepting, .start "version" .byHand none none) ::
      (secondAttempt.take 2).map fun c => (accepting, .call id c)) (hend ▸ hr) hs
  rw [hend] at hlast
  exact ⟨id, w, r, s, hend.symm, hr, hs, hst, herror, hlast⟩

theorem completed_with_error : ∃ (id : String) (w : World) (r : Run) (s : NodeState),
    Fresh (.ofCanvas soleWorker) ∧
    w = afterOperations (.ofCanvas soleWorker) ((accepting, .start "version" .byHand none none) ::
      secondAttempt.map fun c => (accepting, .call id c)) ∧
    w.store.run? id = some r ∧ r.state? "work" = some s ∧ s.status = .completed ∧
    s.error = some "no" ∧ ¬ (s.error ≠ none ↔ s.status = .failed) := by
  -- The worker is completed in the end, and has the error of its first attempt still.
  obtain ⟨⟨id, w₁⟩, hstart, w, hplay, r, hr, s, hs, hst, herror⟩ := exists_of_any
    (x := accepting.startFor 20 "version" .byHand none none (.ofCanvas soleWorker))
    (P := fun x => ∃ w ∈ accepting.playFor 20 x.1 secondAttempt x.2,
      ∃ r ∈ w.store.run? x.1, ∃ s ∈ r.state? "work", s.status = .completed ∧ s.error = some "no")
    (by decide +kernel)
  exact ⟨id, w, r, s, fresh_soleWorker, (afterOperations_of_startFor hstart hplay).symm, hr, hs, hst,
    herror, by simp [herror, hst]⟩

end Engine

end Workflow
