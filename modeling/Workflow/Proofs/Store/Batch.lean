import Workflow.Proofs.Store.Trace
import Workflow.Proofs.Store.Write

/-! What batches of updates and registrations with any arguments check and write. -/

namespace Workflow.Store

variable {now : Instant} {s s' : Store} {r q : Run} {d d' : Draft} {id key t : String}
  {u : NodeUpdate} {us : List (String × NodeUpdate)} {instances : List (String × List NodeState)}
  {st : NodeState} {states : List NodeState} {new : Keyed NodeState}
  {shares : String → List String}

def Applies (r : Run) (key : String) (u : NodeUpdate) : Prop :=
  ∃ st, r.state? key = some st ∧ ∀ t, u.status = some t → st.status.canBecome t = true

lemma checkUpdates_ok (h : checkUpdates r us = .ok ()) : ∀ x ∈ us, Applies r x.1 x.2 := by
  induction us with
  | nil => simp
  | cons x rest ih =>
    obtain ⟨key, u⟩ := x
    rw [checkUpdates] at h
    split at h
    · cases h
    · rename_i st hs hu
      refine List.forall_mem_cons.mpr ⟨⟨st, hs, ?_⟩, ih h⟩
      simp [hu]
    · rename_i st target hs hu
      split at h
      · rename_i hc
        refine List.forall_mem_cons.mpr ⟨⟨st, hs, ?_⟩, ih h⟩
        rintro t ht
        obtain rfl := Option.some.inj (hu.symm.trans ht)
        exact hc
      · cases h

lemma applyUpdate_run (now : Instant) (u : NodeUpdate) (hs : d.run.state? key = some st) :
    (applyUpdate now d (key, u)).run =
      { d.run with states := Keyed.set d.run.states key (u.apply now st) } := by
  simp only [applyUpdate, hs]
  split <;> rfl

lemma applyUpdates_ok (h : applyUpdates now us d = .ok d') :
    checkUpdates d.run us = .ok () ∧ d' = us.foldl (applyUpdate now) d := by
  rw [applyUpdates] at h
  cases hc : checkUpdates d.run us with
  | error f => simp [hc, bind, Except.bind] at h
  | ok o =>
    simp only [hc, bind, Except.bind, pure, Except.pure, Except.ok.injEq] at h
    exact ⟨rfl, h.symm⟩

lemma applyShared_alone (now : Instant) :
    applyShared now (fun key => [key]) = applyUpdate now := by
  funext d x
  rfl

def registered (instances : List (String × List NodeState)) : Keyed NodeState :=
  instances.flatMap fun e => instanceStates e.1 0 e.2

lemma registered_cons (e : String × List NodeState) (rest : List (String × List NodeState)) :
    registered (e :: rest) = instanceStates e.1 0 e.2 ++ registered rest := List.flatMap_cons

structure Draft.Drawn (r : Run) (new : Keyed NodeState) (d : Draft) : Prop where
  row : d.run = { r with states := r.states ++ new, instances := d.run.instances }
  fresh : ∀ key ∈ Keyed.keys new, r.state? key = none
  own : ∀ e ∈ d.events, e.runId = some r.id
  silent : ∀ e ∈ d.events, e.kind ≠ .nodeStatusChanged

namespace Draft.Drawn

lemma start (r : Run) : Draft.Drawn r [] ⟨r, []⟩ where
  row := by simp
  fresh := by simp [Keyed.keys]
  own := by simp
  silent := by simp

lemma state? (h : d.Drawn r new) (key : String) :
    d.run.state? key = (r.state? key).or (Keyed.find? new key) := by
  rw [h.row]
  exact Keyed.find?_append

lemma added (h : d.Drawn r new) (ha : addInstances now d t states = .ok d') :
    d'.Drawn r (new ++ instanceStates t 0 states) := by
  obtain ⟨-, hfresh, rfl⟩ := addInstances_ok ha
  refine ⟨?_, ?_, ?_, ?_⟩
  · rw [h.row]
    simp
  · intro key hkey
    rw [Keyed.keys, List.map_append, List.mem_append] at hkey
    rcases hkey with hkey | hkey
    · exact h.fresh key hkey
    · have hk : key ∈ Keyed.keys (instanceStates t 0 states) := hkey
      rw [keys_instanceStates, List.mem_map] at hk
      obtain ⟨j, hj, rfl⟩ := hk
      have hnone := Keyed.find?_eq_none_iff.mpr (hfresh j (by simpa using hj))
      exact (Option.or_eq_none_iff.mp ((h.state? _).symm.trans hnone)).1
  · intro e he
    rcases List.mem_append.mp he with he | he
    · exact h.own e he
    · obtain rfl := List.mem_singleton.mp he
      rw [h.row]
      rfl
  · intro e he
    rcases List.mem_append.mp he with he | he
    · exact h.silent e he
    · obtain rfl := List.mem_singleton.mp he
      simp [instancesCreated]

lemma addedAll (h : d.Drawn r new)
    (ha : instances.foldlM (fun d e => addInstances now d e.1 e.2) d = .ok d') :
    d'.Drawn r (new ++ registered instances) := by
  induction instances generalizing d new with
  | nil =>
    obtain rfl := Except.ok.inj ha
    simpa [registered] using h
  | cons e rest ih =>
    rw [List.foldlM_cons] at ha
    cases hd : addInstances now d e.1 e.2 with
    | error f => simp [hd, bind, Except.bind] at ha
    | ok d₁ =>
      simp only [hd, bind, Except.bind] at ha
      have hall := ih (h.added hd) ha
      rwa [List.append_assoc, ← registered_cons] at hall

end Draft.Drawn

structure Rewrites (now : Instant) (id : String) (instances : List (String × List NodeState))
    (shares : String → List String) (us : List (String × NodeUpdate)) (s : Store) (q : Run)
    (s' : Store) : Prop where
  exists_draft : ∃ r d, s.run? id = some r ∧ d.Drawn r (registered instances) ∧
    checkUpdates d.run us = .ok () ∧ s.save now (us.foldl (applyShared now shares) d) = (q, s')

lemma row_ok (h : s.row id = .ok r) : s.run? id = some r := by
  rw [row] at h
  split at h
  · rename_i r' hr
    rw [readRow] at h
    split at h
    · exact hr.trans (congrArg some (Except.ok.inj h))
    · cases h
  · cases h

lemma Rewrites.of_applyUpdates (hr : s.row id = .ok r) (hd : applyUpdates now us ⟨r, []⟩ = .ok d) :
    Rewrites now id [] (fun key => [key]) us s (s.save now d).1 (s.save now d).2 := by
  obtain ⟨hcheck, rfl⟩ := applyUpdates_ok hd
  refine ⟨r, _, row_ok hr, .start r, hcheck, ?_⟩
  rw [applyShared_alone]

lemma update_ok {expected : Option Int} (h : s.update now id us expected = .ok (q, s')) :
    Rewrites now id [] (fun key => [key]) us s q s' := by
  rw [Store.update] at h
  cases hr : s.row id with
  | error f => simp [hr, bind, Except.bind] at h
  | ok r =>
    cases hd : applyUpdates now us ⟨r, []⟩ with
    | error f =>
      simp only [hr, hd, bind, Except.bind] at h
      split at h
      · split at h <;> cases h
      · cases h
    | ok d =>
      have hw := Rewrites.of_applyUpdates hr hd
      have hsave : s.save now d = (q, s') := by
        simp only [hr, hd, bind, Except.bind] at h
        split at h
        · split at h
          · cases h
          · exact Except.ok.inj h
        · exact Except.ok.inj h
      rwa [hsave] at hw

lemma claim_ok {sources : List Status} {target : Status} {o : Option Run}
    (h : s.claim now id key sources target = .ok (o, s')) :
    o = none ∧ s' = s ∨
      ∃ q, o = some q ∧ Rewrites now id [] (fun key => [key]) [(key, .toStatus target)] s q s' := by
  rw [Store.claim] at h
  cases hr : s.row id with
  | error f => simp [hr, bind, Except.bind] at h
  | ok r =>
    simp only [hr, bind, Except.bind] at h
    split at h
    · cases h
    · split at h
      · cases hd : applyUpdates now [(key, .toStatus target)] ⟨r, []⟩ with
        | error f => simp [hd] at h
        | ok d =>
          simp only [hd, pure, Except.pure, Except.ok.injEq, Prod.mk.injEq] at h
          obtain ⟨rfl, rfl⟩ := h
          exact .inr ⟨_, rfl, .of_applyUpdates hr hd⟩
      · simp only [pure, Except.pure, Except.ok.injEq, Prod.mk.injEq] at h
        exact .inl ⟨h.1.symm, h.2.symm⟩

lemma enroll_ok {handed : Handover} (h : s.enroll now id handed us = .ok (q, s')) :
    Rewrites now id handed.valued handed.sharers us s q s' := by
  rw [Store.enroll] at h
  cases hr : s.row id with
  | error f => simp [hr, bind, Except.bind] at h
  | ok r =>
    cases ha : handed.valued.foldlM (fun d e => addInstances now d e.1 e.2) ⟨r, []⟩ with
    | error f => simp [hr, ha, bind, Except.bind] at h
    | ok d =>
      cases hc : checkUpdates d.run us with
      | error f => simp [hr, ha, hc, bind, Except.bind] at h
      | ok o =>
        refine ⟨r, d, row_ok hr, (Draft.Drawn.start r).addedAll ha, hc, ?_⟩
        simpa [hr, ha, hc, bind, Except.bind, pure, Except.pure] using h

end Workflow.Store
