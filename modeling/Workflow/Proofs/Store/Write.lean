import Workflow.Proofs.Store.Record

/-! What the operations on a run's row write, and when they are refused. -/

namespace Workflow

namespace Store

open Run (Spawnable)

variable {now : Instant} {s : Store} {r r' : Run} {id key t : String} {u : NodeUpdate}
  {st : NodeState} {target : Status} {items : List Json} {targets : List String} {d d' : Draft}
  {es : List Event} {f : Failure} {rows : List Run}

def unreadable : Failure := .invalidRow [⟨[.member "revision"], .oversizedInteger⟩]

lemma row_eq (h : s.run? id = some r) :
    s.row id = if holdsRevision r.revision then .ok r else .error unreadable := by
  simp [row, h, readRow, unreadable]

lemma readRun_eq (h : s.run? id = some r) :
    s.readRun id = if holdsRevision r.revision then .ok (some r) else .error unreadable := by
  simp only [readRun, h, readRow, unreadable]
  split <;> rfl

lemma run?_of_readRun (h : s.readRun id = .ok (some r)) : s.run? id = some r := by
  cases hr : s.run? id with
  | none =>
    rw [readRun, hr] at h
    cases h
  | some q =>
    rw [readRun_eq hr] at h
    split at h
    · exact Except.ok.inj h
    · cases h

lemma mapM_readRow {l : List Run} (h : l.mapM readRow = .ok rows) : rows = l := by
  induction l generalizing rows with
  | nil => exact (Except.ok.inj h).symm
  | cons r rest ih =>
    rw [List.mapM_cons, readRow] at h
    split at h
    · cases hrest : rest.mapM readRow with
      | error f =>
        rw [hrest] at h
        cases h
      | ok rows' =>
        rw [hrest] at h
        rw [← Except.ok.inj h, ih hrest]
    · cases h

lemma listRuns_perm (h : s.listRuns none = .ok rows) : rows.Perm s.runs := by
  rw [mapM_readRow h]
  refine (List.mergeSort_perm _ _).trans ?_
  simp

lemma createRun_ok {s' : Store} (h : s.createRun now r = .ok s') :
    s.run? r.id = none ∧ s' = { s with runs := s.runs ++ [r] }.log (runStarted now r) := by
  rw [createRun] at h
  split at h
  · cases h
  · split at h
    · cases h
    · rename_i hrow _ _
      exact ⟨hrow, (Except.ok.inj h).symm⟩
    · cases h

lemma applyUpdates_eq (now : Instant) (es : List Event) (u : NodeUpdate)
    (hs : r.state? key = some st) (hu : u.status = some target)
    (hc : st.status.canBecome target = true) :
    applyUpdates now [(key, u)] ⟨r, es⟩ =
      .ok ⟨{ r with states := Keyed.set r.states key (u.apply now st) },
        es ++ r.changeEvents now key u⟩ := by
  simp [applyUpdates, checkUpdates, applyUpdate, hs, hu, hc, Run.changeEvents, statusChanged,
    bind, Except.bind, pure, Except.pure]

lemma save_update (hs : r.state? key = some st) :
    s.save now ⟨{ r with states := Keyed.set r.states key (u.apply now st) }, es⟩ =
      (r.update now key u, s.put (r.update now key u) es) := by
  rw [Run.update_eq hs]
  rfl

lemma addStates_ok {i : Nat} {states : List NodeState} (h : addStates t r i states = .ok r') :
    (∀ j < states.length, InstanceKey.text ⟨t, (i + j : Nat)⟩ ∉ Keyed.keys r.states) ∧
      r' = { r with states := r.states ++ instanceStates t i states } := by
  induction states generalizing r i with
  | nil =>
    obtain rfl := Except.ok.inj h
    simp [instanceStates]
  | cons a rest ih =>
    simp only [addStates] at h
    split at h
    · cases h
    · rename_i hhas
      rw [Keyed.has_iff_mem_keys] at hhas
      have hset := Keyed.set_of_not_mem (v := a) hhas
      obtain ⟨hfresh, rfl⟩ := ih h
      constructor
      · intro j hj hmem
        cases j with
        | zero => exact hhas hmem
        | succ j =>
          refine hfresh j (by simpa using hj) ?_
          rw [Keyed.keys_set, if_neg hhas, List.mem_append]
          rw [show i + (j + 1) = i + 1 + j by omega] at hmem
          exact .inl hmem
      · simp [hset, instanceStates]

lemma addStates_error {i : Nat} {states : List NodeState} (h : addStates t r i states = .error f) :
    ∃ j < states.length, InstanceKey.text ⟨t, (i + j : Nat)⟩ ∈ Keyed.keys r.states ∧
      f = .instanceCollision (InstanceKey.text ⟨t, (i + j : Nat)⟩) := by
  induction states generalizing r i with
  | nil => cases h
  | cons a rest ih =>
    simp only [addStates] at h
    split at h
    · rename_i hhas
      exact ⟨0, by simp, Keyed.has_iff_mem_keys.mp hhas, (Except.error.inj h).symm⟩
    · obtain ⟨j, hj, hmem, rfl⟩ := ih h
      have hij : i + 1 + j = i + (j + 1) := by omega
      rw [hij] at hmem ⊢
      refine ⟨j + 1, by simpa using hj, ?_, rfl⟩
      rw [Keyed.keys_set] at hmem
      split at hmem
      · exact hmem
      · -- The key that was just added has another index.
        refine (List.mem_append.mp hmem).resolve_right fun hnew => ?_
        have he := InstanceKey.mk.inj (InstanceKey.text_injective (List.mem_singleton.mp hnew))
        have := Int.ofNat.inj he.2
        omega

inductive Rejection : Failure → Prop where
  | exists (runId template : String) : Rejection (.instancesExist runId template)
  | collision (key : String) : Rejection (.instanceCollision key)

/-- Why a row refuses a fan-out of targets over items. -/
inductive Refuses (r : Run) (targets : List String) (items : List Json) : Failure → Prop where
  | exists {u : String} (hu : u ∈ targets) (hi : r.hasInstances u = true) :
      Refuses r targets items (.instancesExist r.id u)
  | collision {u : String} {j : Nat} (hu : u ∈ targets) (hj : j < items.length)
      (hk : InstanceKey.text ⟨u, j⟩ ∈ Keyed.keys r.states) :
      Refuses r targets items (.instanceCollision (InstanceKey.text ⟨u, j⟩))

namespace Refuses

lemma rejection (h : Refuses r targets items f) : Rejection f := by
  cases h with
  | «exists» => exact .exists _ _
  | collision => exact .collision _

lemma not_spawnable (h : Refuses r targets items f) : ¬ r.Spawnable targets items := by
  intro hs
  cases h with
  | «exists» ht hi => simp [hs.whole _ ht] at hi
  | collision ht hj hk => exact hs.fresh _ ht _ hj hk

end Refuses

lemma addInstances_ok {states : List NodeState} (h : addInstances now d t states = .ok d') :
    d.run.hasInstances t = false ∧
    (∀ j < states.length, InstanceKey.text ⟨t, (j : Nat)⟩ ∉ Keyed.keys d.run.states) ∧
      d' = ⟨{ d.run with
        states := d.run.states ++ instanceStates t 0 states
        instances := d.run.instances ++ [(t, indices states.length)] },
        d.events ++ [instancesCreated now d.run t (firstInstances t states.length)]⟩ := by
  simp only [addInstances] at h
  split at h
  · cases h
  · split at h
    · cases h
    · rename_i hnew
      cases ha : addStates t d.run 0 states with
      | error f => simp [ha, bind, Except.bind] at h
      | ok r =>
        obtain ⟨hfresh, rfl⟩ := addStates_ok ha
        have hset := Keyed.set_of_not_mem (v := indices states.length)
          (Keyed.find?_eq_none_iff.mp (Run.hasInstances_eq_false.mp (by simpa using hnew)))
        simp only [ha, bind, Except.bind, pure, Except.pure, Except.ok.injEq] at h
        refine ⟨by simpa using hnew, by simpa using hfresh, ?_⟩
        rw [← h, ← hset]
        rfl

lemma addInstances_error (ht : t ∈ Keyed.keys d.run.states)
    (h : addInstances now d t (items.map .pending) = .error f) : Refuses d.run [t] items f := by
  simp only [addInstances, Keyed.has_iff_mem_keys.mpr ht] at h
  split at h
  · rename_i hn
    simp at hn
  · split at h
    · rename_i hi
      simp only [throw, throwThe, MonadExceptOf.throw, bind, Except.bind, Except.error.injEq] at h
      exact h ▸ .exists (List.mem_singleton_self t) hi
    · cases ha : addStates t d.run 0 (items.map .pending) with
      | error g =>
        simp only [ha, bind, Except.bind, Except.error.injEq] at h
        obtain ⟨j, hj, hk, rfl⟩ := addStates_error ha
        rw [Nat.zero_add] at h hk
        exact h ▸ .collision (List.mem_singleton_self t) (by simpa using hj) hk
      | ok r => simp [ha, bind, Except.bind, pure, Except.pure] at h

lemma addAll_ok (h : (targets.map fun t => (t, items.map NodeState.pending)).foldlM
      (fun d e => addInstances now d e.1 e.2) ⟨r, es⟩ = .ok d) :
    r.Spawnable targets items ∧ d = ⟨r.fanned targets items, es ++ targets.map fun t =>
      instancesCreated now r t (firstInstances t items.length)⟩ := by
  induction targets generalizing r es with
  | nil =>
    obtain rfl := Except.ok.inj h
    exact ⟨⟨by simp, by simp, by simp⟩, by simp [Run.fanned, spawnedStates]⟩
  | cons t rest ih =>
    simp only [List.map_cons, List.foldlM_cons] at h
    cases ha : addInstances now ⟨r, es⟩ t (items.map .pending) with
    | error f => simp [ha, bind, Except.bind] at h
    | ok d₁ =>
      obtain ⟨hnew, hfresh, rfl⟩ := addInstances_ok ha
      simp only [List.length_map] at hfresh
      simp only [ha, bind, Except.bind] at h
      obtain ⟨hrest, rfl⟩ := ih h
      refine ⟨⟨List.nodup_cons.mpr ⟨?_, hrest.nodup⟩, ?_, ?_⟩, ?_⟩
      · intro ht
        have hw := hrest.whole t ht
        rw [Run.hasInstances_eq_false, Keyed.find?_append] at hw
        simp [Keyed.find?] at hw
      · intro t' ht'
        rcases List.mem_cons.mp ht' with rfl | ht'
        · exact hnew
        · have hw := hrest.whole t' ht'
          rw [Run.hasInstances_eq_false, Keyed.find?_append, Option.or_eq_none_iff] at hw
          exact Run.hasInstances_eq_false.mpr hw.1
      · intro t' ht' j hj hmem
        rcases List.mem_cons.mp ht' with rfl | ht'
        · exact hfresh j hj hmem
        · refine hrest.fresh t' ht' j hj ?_
          simp only [Keyed.keys, List.map_append, List.mem_append] at hmem ⊢
          exact .inl hmem
      · simp [Run.fanned, spawnedStates, instancesCreated]

lemma addAll_error (hnodup : targets.Nodup) (ht : ∀ t ∈ targets, t ∈ Keyed.keys r.states)
    (h : (targets.map fun t => (t, items.map NodeState.pending)).foldlM
      (fun d e => addInstances now d e.1 e.2) ⟨r, es⟩ = .error f) : Refuses r targets items f := by
  induction targets generalizing r es with
  | nil => cases h
  | cons t rest ih =>
    obtain ⟨hnot, hnodup⟩ := List.nodup_cons.mp hnodup
    simp only [List.map_cons, List.foldlM_cons] at h
    cases ha : addInstances now ⟨r, es⟩ t (items.map .pending) with
    | error g =>
      simp only [ha, bind, Except.bind, Except.error.injEq] at h
      subst h
      have hone : [t] ⊆ t :: rest := by simp
      cases addInstances_error (ht t (by simp)) ha with
      | «exists» ht hi => exact .exists (hone ht) hi
      | collision ht hj hk => exact .collision (hone ht) hj hk
    | ok d₁ =>
      obtain ⟨_, _, rfl⟩ := addInstances_ok ha
      simp only [ha, bind, Except.bind] at h
      have hrest := ih hnodup (fun t' ht' => ?_) h
      · -- What the target before has added is neither a later target nor a key of its instances.
        cases hrest with
        | @«exists» u hu hi =>
          refine .exists (List.mem_cons_of_mem _ hu) ?_
          obtain ⟨is, hf⟩ := Run.hasInstances_iff.mp hi
          rw [Keyed.find?_append] at hf
          cases hr : Keyed.find? r.instances u with
          | some js => exact Run.hasInstances_iff.mpr ⟨js, hr⟩
          | none =>
            have hne : t ≠ u := fun he => hnot (he ▸ hu)
            simp [hr, Keyed.find?, hne] at hf
        | @collision u j hu hj hk =>
          refine .collision (List.mem_cons_of_mem _ hu) hj ?_
          simp only [Keyed.keys, List.map_append, List.mem_append] at hk
          refine hk.resolve_right fun hnew => ?_
          have hnew' : InstanceKey.text ⟨u, (j : Nat)⟩ ∈
              Keyed.keys (instanceStates t 0 (items.map NodeState.pending)) := hnew
          rw [keys_instanceStates, List.mem_map] at hnew'
          obtain ⟨i, _, he⟩ := hnew'
          have htu := (InstanceKey.mk.inj (InstanceKey.text_injective he)).1
          exact hnot (htu ▸ hu)
      · simp only [Keyed.keys, List.map_append, List.mem_append]
        exact .inl (ht t' (by simp [ht']))

end Store

namespace World

open Store

variable {w w' : World} {id key : String} {p : Plan} {r r' : Run} {st : NodeState} {u : NodeUpdate}
  {target : Status} {items : List Json} {targets : List String} {f : Failure}

lemma letRival_none {kind : WriteKind} (h : w.rival = none) : letRival kind w = .ok () w := by
  simp [letRival, Action.bind_apply, h]

lemma write_apply {α : Type} (g : Instant → Store → Except Failure (α × Store)) (w : World) :
    write g w =
      match g w.now w.store with
      | .ok (a, store) => .ok a { w with store }
      | .error f => .error f w := by
  simp only [write, Action.bind_apply, Action.get_apply]
  split <;> simp_all [Action.bind_apply]

lemma run_apply (id : String) (w : World) :
    run id w =
      match w.store.readRun id with
      | .ok (some r) => .ok r w
      | .ok none => .error (.runNotFound id) w
      | .error f => .error f w := by
  simp only [run, run?, Action.bind_apply, Action.get_apply]
  cases w.store.readRun id with
  | error f => rfl
  | ok o => cases o <;> rfl

lemma run_ok {q : Run} (h : run id w = .ok q w') : w' = w ∧ w.store.readRun id = .ok (some q) := by
  rw [run_apply] at h
  split at h
  · rename_i hr
    obtain ⟨rfl, rfl⟩ := EStateM.Result.ok.inj h
    exact ⟨rfl, hr⟩
  · cases h
  · cases h

lemma run_error (h : run id w = .error f w') : w' = w := by
  rw [run_apply] at h
  split at h
  · cases h
  · exact (EStateM.Result.error.inj h).2.symm
  · exact (EStateM.Result.error.inj h).2.symm

variable (h : w.Hosts id p r)
include h

lemma record_eq {x : Write} (hx : ∀ e, x ≠ .note e) : w.record id x =
    { w with store := w.store.put (r.after w.now x) (r.eventsOf w.now x) } := by
  cases x with
  | move | spawn => simp [record, recorded, h.row]
  | note e => exact absurd rfl (hx e)

lemma update_eq (hs : r.state? key = some st) (hu : u.status = some target)
    (hc : st.status.canBecome target = true) :
    update id [(key, u)] w =
      if holdsRevision r.revision then .ok (r.update w.now key u) (w.record id (.move key u))
      else .error unreadable w := by
  rw [update, Action.bind_of_ok (letRival_none h.rival), write_apply,
    record_eq h (by simp)]
  simp only [Store.update, row_eq h.row]
  by_cases hr : holdsRevision r.revision
  · have happ := applyUpdates_eq w.now [] u hs hu hc
    simp [hr, happ, save_update hs, Run.after, Run.eventsOf, pure, Except.pure, bind, Except.bind]
  · simp [hr, bind, Except.bind]

lemma update_unreadable (us : List (String × NodeUpdate))
    (hr : holdsRevision r.revision = false) : update id us w = .error unreadable w := by
  rw [update, Action.bind_of_ok (letRival_none h.rival), write_apply]
  simp [Store.update, row_eq h.row, hr, bind, Except.bind]

lemma claim_eq (source : Status) (hs : r.state? key = some st)
    (hc : source.canBecome .running = true) :
    claim id key [source] .running w =
      if holdsRevision r.revision then
        if st.status = source then
          .ok (some (r.update w.now key (.toStatus .running)))
            (w.record id (.move key (.toStatus .running)))
        else .ok none w
      else .error unreadable w := by
  rw [claim, Action.bind_of_ok (letRival_none h.rival), write_apply,
    record_eq h (by simp)]
  simp only [Store.claim, row_eq h.row]
  by_cases hr : holdsRevision r.revision
  · by_cases hst : st.status = source
    · have happ := applyUpdates_eq w.now [] (.toStatus .running) hs rfl
        (hst ▸ hc)
      simp [hr, hs, hst, happ, save_update hs, Run.after, Run.eventsOf, pure, Except.pure, bind,
        Except.bind]
    · simp [hr, hs, hst, pure, Except.pure, bind, Except.bind]
  · simp [hr, bind, Except.bind]

lemma register_eq (items : List Json) (hnodup : targets.Nodup)
    (ht : ∀ t ∈ targets, t ∈ Keyed.keys r.states) (hs : r.state? key = some st)
    (hr : st.status = .running) :
    (∃ f, register id (targets.map fun t => (t, items.map NodeState.pending))
        [(key, .finish .completed (.arr items))] w = .error f w ∧
        (Refuses r targets items f ∨ f = unreadable ∧ holdsRevision r.revision = false)) ∨
      r.Spawnable targets items ∧
        register id (targets.map fun t => (t, items.map NodeState.pending))
          [(key, .finish .completed (.arr items))] w =
          .ok (r.after w.now (.spawn key targets items))
            (w.record id (.spawn key targets items)) := by
  rw [register, Action.bind_of_ok (letRival_none h.rival), write_apply,
    record_eq h (by simp)]
  simp only [Store.register, row_eq h.row]
  by_cases hrev : holdsRevision r.revision
  · cases ha : (targets.map fun t => (t, items.map NodeState.pending)).foldlM
      (fun d e => addInstances w.now d e.1 e.2) ⟨r, []⟩ with
    | error f =>
      refine .inl ⟨f, ?_, .inl (addAll_error hnodup ht ha)⟩
      simp [hrev, ha, bind, Except.bind]
    | ok d =>
      obtain ⟨hspawn, rfl⟩ := addAll_ok ha
      refine .inr ⟨hspawn, ?_⟩
      have hfan := Run.state?_fanned_of_some targets items hs
      have happ := applyUpdates_eq w.now (targets.map fun t =>
        instancesCreated w.now r t (firstInstances t items.length))
        (.finish .completed (.arr items)) hfan rfl (by rw [hr]; rfl)
      rw [List.nil_append] at ha
      simp [hrev, ha, happ, save_update hfan, Run.after, Run.eventsOf, pure, Except.pure, bind,
        Except.bind]
  · refine .inl ⟨unreadable, ?_, .inr ⟨rfl, by simpa using hrev⟩⟩
    simp [hrev, bind, Except.bind]

lemma run_eq :
    run id w = if holdsRevision r.revision then .ok r w else .error unreadable w := by
  rw [run_apply, readRun_eq h.row]
  by_cases hr : holdsRevision r.revision = true
  · rw [if_pos hr, if_pos hr]
  · rw [if_neg hr, if_neg hr]

end World

end Workflow
