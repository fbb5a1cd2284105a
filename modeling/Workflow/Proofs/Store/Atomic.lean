import Mathlib.Data.List.Perm.Basic
import Mathlib.Tactic.Ring
import Workflow.Proofs.Store.History

/-!
Batches of updates take place as a whole or not at all, and it does not matter in which order. A
batch that names the revision of an earlier reading is refused once another write has come between.
-/

namespace Workflow

namespace Keyed

variable {α : Type} {m : Keyed α} {k k' : String}

lemma set_comm (h : k ≠ k') (hk : k ∈ keys m) (hk' : k' ∈ keys m) (v v' : α) :
    set (set m k v) k' v' = set (set m k' v') k v := by
  induction m with
  | nil => simp [keys] at hk
  | cons e rest ih =>
    obtain ⟨j, w⟩ := e
    simp only [keys, List.map_cons, List.mem_cons] at hk hk'
    by_cases hj : j = k
    · have hj' : j ≠ k' := fun he => h (hj.symm.trans he)
      simp [set, hj, hj ▸ hj']
    · by_cases hj' : j = k'
      · simp [set, hj', hj' ▸ hj]
      · have hrest := ih (hk.resolve_left (Ne.symm hj)) (hk'.resolve_left (Ne.symm hj'))
        simp [set, hj, hj', hrest]

end Keyed

def Event.told (e : Event) : EventKind × Option String × Option String × Option String :=
  (e.kind, e.runId, e.nodeKey, e.status)

namespace Store

variable {now : Instant} {s s' : Store} {r q : Run} {m : Keyed NodeState} {id k : String}
  {u : NodeUpdate} {x y : String × NodeUpdate} {us us' : List (String × NodeUpdate)}
  {st : NodeState} {expected : Option Int} {instances : List (String × List NodeState)}

/-! The states after a batch -/

def amend (now : Instant) (m : Keyed NodeState) (x : String × NodeUpdate) : Keyed NodeState :=
  (Keyed.find? m x.1).elim m fun st => Keyed.set m x.1 (x.2.apply now st)

def amendAll (now : Instant) (us : List (String × NodeUpdate)) (m : Keyed NodeState) :
    Keyed NodeState := us.foldl (amend now) m

lemma amend_of_some (hs : Keyed.find? m x.1 = some st) :
    amend now m x = Keyed.set m x.1 (x.2.apply now st) := by rw [amend, hs, Option.elim_some]

lemma amend_of_none (hs : Keyed.find? m x.1 = none) : amend now m x = m := by
  rw [amend, hs, Option.elim_none]

lemma find?_amend (now : Instant) (m : Keyed NodeState) (x : String × NodeUpdate) (k : String) :
    Keyed.find? (amend now m x) k =
      if x.1 = k then (Keyed.find? m k).map (x.2.apply now) else Keyed.find? m k := by
  cases hs : Keyed.find? m x.1 with
  | none =>
    rw [amend_of_none hs]
    split
    · rename_i hk
      rw [← hk, hs, Option.map_none]
    · rfl
  | some st =>
    rw [amend_of_some hs, Keyed.find?_set]
    split
    · rename_i hk
      rw [← hk, hs, Option.map_some]
    · rfl

lemma keys_amend (now : Instant) (m : Keyed NodeState) (x : String × NodeUpdate) :
    Keyed.keys (amend now m x) = Keyed.keys m := by
  cases hs : Keyed.find? m x.1 with
  | none => rw [amend_of_none hs]
  | some st => rw [amend_of_some hs, Keyed.keys_set, if_pos (Keyed.mem_keys_of_find? hs)]

lemma keys_amendAll (now : Instant) (us : List (String × NodeUpdate)) (m : Keyed NodeState) :
    Keyed.keys (amendAll now us m) = Keyed.keys m := by
  induction us generalizing m with
  | nil => rfl
  | cons x rest ih => exact (ih (amend now m x)).trans (keys_amend now m x)

lemma find?_amendAll_of_notMem (h : k ∉ us.map Prod.fst) :
    Keyed.find? (amendAll now us m) k = Keyed.find? m k := by
  induction us generalizing m with
  | nil => rfl
  | cons x rest ih =>
    rw [List.map_cons, List.mem_cons, not_or] at h
    exact (ih h.2).trans ((find?_amend now m x k).trans (if_neg (Ne.symm h.1)))

lemma find?_amendAll_of_mem (hn : (us.map Prod.fst).Nodup) (h : (k, u) ∈ us) :
    Keyed.find? (amendAll now us m) k = (Keyed.find? m k).map (u.apply now) := by
  induction us generalizing m with
  | nil => cases h
  | cons x rest ih =>
    obtain ⟨hx, hrest⟩ := List.nodup_cons.mp hn
    rcases List.mem_cons.mp h with rfl | h
    · exact (find?_amendAll_of_notMem hx).trans ((find?_amend now m _ k).trans (if_pos rfl))
    · have hk : x.1 ≠ k := fun he => hx (he ▸ List.mem_map_of_mem (f := Prod.fst) h)
      have hstep : Keyed.find? (amend now m x) k = Keyed.find? m k :=
        (find?_amend now m x k).trans (if_neg hk)
      rw [amendAll, List.foldl_cons]
      exact (ih hrest h).trans (congrArg _ hstep)

lemma amend_comm (h : x.1 ≠ y.1) (m : Keyed NodeState) :
    amend now (amend now m x) y = amend now (amend now m y) x := by
  have hx : Keyed.find? (amend now m x) y.1 = Keyed.find? m y.1 :=
    (find?_amend now m x y.1).trans (if_neg h)
  have hy : Keyed.find? (amend now m y) x.1 = Keyed.find? m x.1 :=
    (find?_amend now m y x.1).trans (if_neg (Ne.symm h))
  cases hs : Keyed.find? m x.1 with
  | none => rw [amend_of_none hs, amend_of_none (hy.trans hs)]
  | some a =>
    cases hs' : Keyed.find? m y.1 with
    | none => rw [amend_of_none hs', amend_of_none (hx.trans hs')]
    | some b =>
      rw [amend_of_some (hx.trans hs'), amend_of_some (hy.trans hs), amend_of_some hs,
        amend_of_some hs']
      exact Keyed.set_comm h (Keyed.mem_keys_of_find? hs) (Keyed.mem_keys_of_find? hs') _ _

lemma amendAll_perm (hn : (us.map Prod.fst).Nodup) (h : us.Perm us') (m : Keyed NodeState) :
    amendAll now us m = amendAll now us' m := by
  refine h.foldl_eq' (fun x hx y hy m => ?_) m
  by_cases he : x.1 = y.1
  · rw [List.inj_on_of_nodup_map hn hx hy he]
  · exact amend_comm he m

lemma run_applyUpdate (now : Instant) (d : Draft) (x : String × NodeUpdate) :
    (applyUpdate now d x).run = { d.run with states := amend now d.run.states x } := by
  cases hs : d.run.state? x.1 with
  | none =>
    rw [amend_of_none hs]
    simp [applyUpdate, hs]
  | some st => rw [amend_of_some hs, applyUpdate_run now x.2 hs]

lemma run_foldl_applyUpdate (now : Instant) (us : List (String × NodeUpdate)) (d : Draft) :
    (us.foldl (applyUpdate now) d).run = { d.run with states := amendAll now us d.run.states } := by
  induction us generalizing d with
  | nil => rfl
  | cons x rest ih => rw [List.foldl_cons, ih, run_applyUpdate, amendAll, amendAll, List.foldl_cons]

/-! The events of a batch -/

def announcements (now : Instant) (r : Run) (us : List (String × NodeUpdate)) : List Event :=
  us.flatMap fun x => r.changeEvents now x.1 x.2

lemma changeEvents_amend (hk : x.1 ≠ k) (r : Run) (u : NodeUpdate) :
    Run.changeEvents now k u { r with states := amend now r.states x } =
      r.changeEvents now k u := by
  have hstate : Run.state? { r with states := amend now r.states x } k = r.state? k :=
    (find?_amend now r.states x k).trans (if_neg hk)
  rw [Run.changeEvents, Run.changeEvents, hstate]
  split <;> rfl

lemma events_applyUpdate (now : Instant) (d : Draft) (x : String × NodeUpdate) :
    (applyUpdate now d x).events = d.events ++ d.run.changeEvents now x.1 x.2 := by
  cases hs : d.run.state? x.1 with
  | none => simp [applyUpdate, Run.changeEvents, hs]
  | some st =>
    cases hu : x.2.status with
    | none => simp [applyUpdate, Run.changeEvents, hs, hu]
    | some t => simp [applyUpdate, Run.changeEvents, hs, hu, statusChanged]

lemma events_foldl_applyUpdate (now : Instant) (hn : (us.map Prod.fst).Nodup) (d : Draft) :
    (us.foldl (applyUpdate now) d).events = d.events ++ announcements now d.run us := by
  induction us generalizing d with
  | nil => simp [announcements]
  | cons x rest ih =>
    obtain ⟨hx, hrest⟩ := List.nodup_cons.mp hn
    have hsame : announcements now { d.run with states := amend now d.run.states x } rest =
        announcements now d.run rest := by
      refine List.flatMap_congr fun y hy => changeEvents_amend (fun he => hx ?_) _ _
      exact he ▸ List.mem_map_of_mem hy
    rw [List.foldl_cons, ih hrest, events_applyUpdate, run_applyUpdate, hsame, List.append_assoc]
    rfl

/-! When a batch is refused -/

lemma checkUpdates_of_applies (h : ∀ x ∈ us, Applies r x.1 x.2) : checkUpdates r us = .ok () := by
  induction us with
  | nil => rfl
  | cons x rest ih =>
    obtain ⟨⟨st, hs, hmove⟩, hrest⟩ := List.forall_mem_cons.mp h
    rw [checkUpdates, hs]
    cases hu : x.2.status with
    | none => exact ih hrest
    | some t => simpa [hmove t hu] using ih hrest

lemma row_eq_ok_iff : s.row id = .ok r ↔ s.readRun id = .ok (some r) := by
  rw [row, readRun]
  cases s.run? id with
  | none => simp
  | some q =>
    change readRow q = .ok r ↔ some <$> readRow q = .ok (some r)
    cases readRow q <;> simp [Functor.map, Except.map]

/-- What a batch asks for: a run that can be read, the revision it expects, known keys and allowed
moves. -/
structure Admits (s : Store) (id : String) (expected : Option Int)
    (us : List (String × NodeUpdate)) (r : Run) : Prop where
  read : s.readRun id = .ok (some r)
  revision : ∀ v ∈ expected, r.revision = v
  applies : ∀ x ∈ us, Applies r x.1 x.2

def amended (now : Instant) (us : List (String × NodeUpdate)) (r : Run) : Run :=
  { r with
    states := amendAll now us r.states
    revision := r.revision + 1
    updatedAt := now }

@[simp] lemma id_amended : (amended now us r).id = r.id := rfl

@[simp] lemma revision_amended : (amended now us r).revision = r.revision + 1 := rfl

lemma Admits.update_eq (h : Admits s id expected us r) (hn : (us.map Prod.fst).Nodup) :
    s.update now id us expected =
      .ok (amended now us r, s.put (amended now us r) (announcements now r us)) := by
  have hrow := row_eq_ok_iff.mpr h.read
  have happly : applyUpdates now us ⟨r, []⟩ = .ok (us.foldl (applyUpdate now) ⟨r, []⟩) := by
    rw [applyUpdates, checkUpdates_of_applies h.applies]
    rfl
  have hsave : s.save now (us.foldl (applyUpdate now) ⟨r, []⟩) =
      (amended now us r, s.put (amended now us r) (announcements now r us)) := by
    rw [save, run_foldl_applyUpdate, events_foldl_applyUpdate now hn]
    rfl
  rw [Store.update, hrow]
  cases he : expected with
  | none => simp [happly, hsave, bind, Except.bind, pure, Except.pure]
  | some v =>
    have hv := h.revision v he
    simp [happly, hsave, hv, bind, Except.bind, pure, Except.pure]

lemma exists_admits (h : s.update now id us expected = .ok (q, s')) :
    ∃ r, Admits s id expected us r := by
  rw [Store.update] at h
  cases hr : s.row id with
  | error f => simp [hr, bind, Except.bind] at h
  | ok r =>
    cases hd : applyUpdates now us ⟨r, []⟩ with
    | error f =>
      simp only [hr, hd, bind, Except.bind] at h
      split at h
      · split at h <;> cases h
      · cases h
    | ok d =>
      refine ⟨r, row_eq_ok_iff.mp hr, ?_, checkUpdates_ok (applyUpdates_ok hd).1⟩
      rintro v rfl
      by_contra hv
      simp [hr, hv, bind, Except.bind, throw, throwThe, MonadExceptOf.throw] at h

/-! One update after another -/

def updateEach (now : Instant) (id : String) (us : List (String × NodeUpdate)) (s : Store) :
    Except Failure Store :=
  us.foldlM (fun s x => (s.update now id [x] none).map Prod.snd) s

lemma Applies.amended_of_ne (h : Applies r y.1 y.2) (hk : x.1 ≠ y.1) :
    Applies (amended now [x] r) y.1 y.2 := by
  obtain ⟨st, hs, hmove⟩ := h
  exact ⟨st, ((find?_amend now r.states x y.1).trans (if_neg hk)).trans hs, hmove⟩

lemma updateEach_cases (now : Instant) (hr : s.run? id = some r)
    (ha : ∀ x ∈ us, Applies r x.1 x.2) (hn : (us.map Prod.fst).Nodup) :
    (updateEach now id us s = .error unreadable ∧
        ∃ i < us.length, holdsRevision (r.revision + i) = false) ∨
      ∃ s' q, updateEach now id us s = .ok s' ∧ s'.run? id = some q ∧
        q.states = amendAll now us r.states ∧ q.revision = r.revision + us.length := by
  induction us generalizing s r with
  | nil => exact .inr ⟨s, r, rfl, hr, rfl, by simp⟩
  | cons x rest ih =>
    obtain ⟨hx, hrest⟩ := List.nodup_cons.mp hn
    obtain ⟨hax, harest⟩ := List.forall_mem_cons.mp ha
    rw [updateEach, List.foldlM_cons]
    by_cases hrev : holdsRevision r.revision = true
    · have hadmits : Admits s id none [x] r :=
        ⟨(readRun_eq hr).trans (if_pos hrev), by simp, by simpa using hax⟩
      have hr' : (s.put (amended now [x] r) (announcements now r [x])).run? id =
          some (amended now [x] r) := by
        rw [run?_put, id_amended, if_pos (id_of_run? hr).symm, hr]
        rfl
      have ha' : ∀ y ∈ rest, Applies (amended now [x] r) y.1 y.2 := fun y hy =>
        (harest y hy).amended_of_ne fun he => hx (he ▸ List.mem_map_of_mem hy)
      rw [hadmits.update_eq (by simp)]
      rcases ih hr' ha' hrest with ⟨he, i, hi, hlow⟩ | ⟨s', q, he, hq, hstates, hlast⟩
      · refine .inl ⟨he, i + 1, by simpa using hi, ?_⟩
        rw [← hlow, revision_amended]
        congr 1
        push_cast
        ring
      · refine .inr ⟨s', q, he, hq, hstates, ?_⟩
        rw [hlast, revision_amended, List.length_cons]
        push_cast
        ring
    · refine .inl ⟨?_, 0, by simp, by simpa using hrev⟩
      simp [Store.update, row_eq hr, hrev, bind, Except.bind, Except.map]

/-! What a batch makes of a row -/

structure Commits (now : Instant) (id : String) (us : List (String × NodeUpdate)) (s : Store)
    (r q : Run) (s' : Store) : Prop where
  row : q = { r with states := q.states, revision := r.revision + 1, updatedAt := now }
  keys : Keyed.keys q.states = Keyed.keys r.states
  written : ∀ x ∈ us, q.state? x.1 = (r.state? x.1).map (x.2.apply now)
  untouched : ∀ k, k ∉ us.map Prod.fst → q.state? k = r.state? k
  stored : ∀ i, s'.run? i = if i = id then some q else s.run? i
  shelf : s'.flows = s.flows ∧ s'.versions = s.versions
  logged : ∃ es, s'.events = s.events ++ es ∧
    es.map (fun e => { e with id := none }) = announcements now r us
  announced : (announcements now r us).map Event.told =
    us.filterMap fun x => x.2.status.map fun t =>
      (.nodeStatusChanged, some id, some x.1, some t.name)
  oneByOne : ∀ us', us.Perm us' →
    (∃ s'' q', updateEach now id us' s = .ok s'' ∧ s''.run? id = some q' ∧ q'.states = q.states) ∨
      updateEach now id us' s = .error unreadable ∧
        ∃ i < us.length, holdsRevision (r.revision + i) = false

lemma told_announcements (now : Instant) (h : ∀ x ∈ us, Applies r x.1 x.2) :
    (announcements now r us).map Event.told =
      us.filterMap fun x => x.2.status.map fun t =>
        (.nodeStatusChanged, some r.id, some x.1, some t.name) := by
  rw [announcements, List.map_flatMap, List.filterMap_eq_flatMap_toList]
  refine List.flatMap_congr fun x hx => ?_
  obtain ⟨st, hs, -⟩ := h x hx
  cases hu : x.2.status with
  | none => simp [Run.changeEvents, hu]
  | some t => simp [Run.changeEvents_eq hs hu, Event.told, statusChanged]

lemma unnumbered_announcements (now : Instant) (r : Run) (us : List (String × NodeUpdate)) :
    (announcements now r us).map (fun e => { e with id := none }) = announcements now r us := by
  refine (List.map_congr_left fun e he => ?_).trans (List.map_id _)
  obtain ⟨x, -, hx⟩ := List.mem_flatMap.mp he
  obtain ⟨st, t, -, -, rfl⟩ := Run.mem_changeEvents hx
  rfl

lemma Admits.commits (now : Instant) (h : Admits s id expected us r)
    (hn : (us.map Prod.fst).Nodup) :
    Commits now id us s r (amended now us r)
      (s.put (amended now us r) (announcements now r us)) := by
  have hr := run?_of_readRun h.read
  have hid := id_of_run? hr
  refine ⟨rfl, keys_amendAll now us r.states, fun x hx => find?_amendAll_of_mem hn hx,
    fun k hk => find?_amendAll_of_notMem hk, fun i => ?_, ⟨by simp [put], by simp [put]⟩, ?_,
    hid ▸ told_announcements now h.applies, fun us' hp => ?_⟩
  · rw [run?_put, id_amended, hid]
    split
    · rename_i hi
      rw [hi, hr, Option.map_some]
    · rfl
  · obtain ⟨es, hes, hmap⟩ := logAll_eq { s with runs := s.runs.map fun (q : Run) =>
      if q.id = (amended now us r).id then amended now us r else q } (announcements now r us)
    exact ⟨es, congrArg Store.events hes, hmap.trans (unnumbered_announcements now r us)⟩
  · have ha : ∀ x ∈ us', Applies r x.1 x.2 := fun x hx => h.applies x (hp.mem_iff.mpr hx)
    have hn' : (us'.map Prod.fst).Nodup := (hp.map Prod.fst).nodup_iff.mp hn
    rcases updateEach_cases now hr ha hn' with ⟨he, hi⟩ | ⟨s'', q', he, hq', hstates, -⟩
    · exact .inr ⟨he, hp.length_eq ▸ hi⟩
    · exact .inl ⟨s'', q', he, hq', hstates.trans (amendAll_perm hn hp r.states).symm⟩

/-! Batches that expect a revision -/

lemma Rewrites.next {shares : String → List String}
    (h : Rewrites now id instances shares us s q s') :
    ∃ r es, s.run? id = some r ∧ s' = s.put q es ∧ q.id = id ∧ q.revision = r.revision + 1 := by
  obtain ⟨r, d, hr, hd, -, hsave⟩ := h
  obtain ⟨rfl, rfl⟩ := Prod.mk.inj hsave
  have hid := id_of_run? hr
  obtain ⟨m, es, he, -⟩ := foldl_applyShared now shares us d
  refine ⟨r, _, hr, rfl, ?_, ?_⟩
  · rw [he, hd.row]
    exact hid
  · rw [he, hd.row]

inductive Passes (id : String) (r : Run) (o : Option Run) (s' : Store) : Prop
  | kept (hrow : s'.run? id = some r) (ho : o.any (·.id = id) = false)
  | raised {q : Run} (hrow : s'.run? id = some q) (ho : o.any (·.id = id) = true)
      (hrev : q.revision = r.revision + 1)

lemma Rewrites.passes {i : String} {shares : String → List String}
    (h : Rewrites now i instances shares us s q s') (hr : s.run? id = some r) :
    Passes id r (some q) s' := by
  obtain ⟨r', es, hr', rfl, hid, hrev⟩ := h.next
  have hrow := run?_put s q es id
  by_cases hi : id = i
  · subst hi
    obtain rfl := Option.some.inj (hr.symm.trans hr')
    rw [if_pos hid.symm, hr] at hrow
    exact .raised hrow (by simp [hid]) hrev
  · have hne : id ≠ q.id := fun he => hi (he.trans hid)
    rw [if_neg hne, hr] at hrow
    exact .kept hrow (by simpa using Ne.symm hne)

lemma Operation.passes {op : Operation} {o : Option Run} (h : op.perform now s = .ok (o, s'))
    (hr : s.run? id = some r) : Passes id r o s' := by
  cases op with
  | createFlow f =>
    obtain ⟨s₁, hs, he⟩ := map_ok h
    obtain ⟨rfl, rfl⟩ := Prod.mk.inj he
    rw [Store.createFlow] at hs
    split at hs
    · cases hs
    · obtain rfl := Except.ok.inj hs
      exact .kept hr rfl
  | insertVersion v =>
    obtain ⟨s₁, hs, he⟩ := map_ok h
    obtain ⟨rfl, rfl⟩ := Prod.mk.inj he
    rw [Store.insertVersion] at hs
    split at hs
    · cases hs
    · cases hs
    · obtain rfl := Except.ok.inj hs
      exact .kept hr rfl
  | createRun r' =>
    obtain ⟨s₁, hs, he⟩ := map_ok h
    obtain ⟨rfl, rfl⟩ := Prod.mk.inj he
    obtain ⟨-, rfl⟩ := createRun_ok hs
    refine .kept ?_ rfl
    change (s.runs ++ [r']).find? _ = _
    rw [List.find?_append, show s.runs.find? _ = _ from hr, Option.some_or]
  | update i us expected =>
    obtain ⟨⟨q, s₁⟩, hs, he⟩ := map_ok h
    obtain ⟨rfl, rfl⟩ := Prod.mk.inj he
    exact (update_ok hs).passes hr
  | claim i key sources target =>
    rcases claim_ok h with ⟨rfl, rfl⟩ | ⟨q, rfl, hw⟩
    · exact .kept hr rfl
    · exact hw.passes hr
  | register i handed us =>
    obtain ⟨⟨q, s₁⟩, hs, he⟩ := map_ok h
    obtain ⟨rfl, rfl⟩ := Prod.mk.inj he
    exact (enroll_ok hs).passes hr
  | append e =>
    obtain ⟨rfl, rfl⟩ := Prod.mk.inj (Except.ok.inj h)
    exact .kept hr rfl

end Store

namespace History

open Store

variable {h : History} {id : String} {r : Run}

lemma row_after (hr : h.store.run? id = some r) (later : History) :
    ∃ n q, writes id (later ++ h) = writes id h + n ∧ (store (later ++ h)).run? id = some q ∧
      q.revision = r.revision + (n : Nat) ∧ (n = 0 → q = r) := by
  induction later with
  | nil => exact ⟨0, r, rfl, hr, by simp, fun _ => rfl⟩
  | cons x later ih =>
    obtain ⟨now, op⟩ := x
    obtain ⟨n, q, hn, hq, hrev, hsame⟩ := ih
    rw [List.cons_append, writes, store]
    cases hop : op.perform now (store (later ++ h)) with
    | error f => exact ⟨n, q, hn, hq, hrev, hsame⟩
    | ok result =>
      obtain ⟨o, s⟩ := result
      cases Operation.passes hop hq with
      | kept hrow ho => exact ⟨n, q, by simp [hn, ho], hrow, hrev, hsame⟩
      | @raised q' hrow ho hraise =>
        refine ⟨n + 1, q', by simp [hn, ho, Nat.add_assoc], hrow, ?_, by simp⟩
        rw [hraise, hrev]
        push_cast
        ring

end History

namespace World

open Store

variable {w w₁ : World} {us : List (String × NodeUpdate)}

lemma updateExpecting_apply (h : letRival .update w = .ok () w₁) (id : String)
    (us : List (String × NodeUpdate)) (expected : Option Int) :
    updateExpecting id us expected w =
      match w₁.store.update w₁.now id us expected with
      | .ok (q, store) => .ok q { w₁ with store }
      | .error f => .error f w₁ := by
  rw [updateExpecting, Action.bind_of_ok h, write_apply]
  cases w₁.store.update w₁.now id us expected <;> rfl

/-- Once another process has written, if one waits (`w₁`), a batch takes place exactly if it is
admitted, as a whole and with the same states as its updates one by one in any order. One that is
refused leaves everything as it was. And if it expects the revision of an earlier reading, then no
write of the row has taken place since. -/
theorem batch_atomic (hn : (us.map Prod.fst).Nodup) (hw : letRival .update w = .ok () w₁)
    (id : String) (expected : Option Int) :
    ((∃ q w', updateExpecting id us expected w = .ok q w') ↔
        ∃ r, Admits w₁.store id expected us r) ∧
      (∀ q w', updateExpecting id us expected w = .ok q w' →
        ∃ r s', Admits w₁.store id expected us r ∧ Commits w₁.now id us w₁.store r q s' ∧
          w' = { w₁ with store := s' }) ∧
      (∀ f w', updateExpecting id us expected w = .error f w' → w' = w₁) ∧
      ∀ (h later : History) (r₀ : Run), w₁.store = History.store (later ++ h) →
        h.store.readRun id = .ok (some r₀) → expected = some r₀.revision →
        ∀ q w', updateExpecting id us expected w = .ok q w' →
          History.writes id (later ++ h) = h.writes id ∧ w₁.store.run? id = some r₀ := by
  have happly := updateExpecting_apply hw id us expected
  cases hu : w₁.store.update w₁.now id us expected with
  | error f =>
    rw [hu] at happly
    have hnone : ¬ ∃ r, Admits w₁.store id expected us r := by
      rintro ⟨r, hr⟩
      cases hu.symm.trans (hr.update_eq hn)
    simp [happly, hnone]
  | ok result =>
    obtain ⟨q, s'⟩ := result
    rw [hu] at happly
    obtain ⟨r, hr⟩ := exists_admits hu
    obtain ⟨rfl, rfl⟩ := Prod.mk.inj (Except.ok.inj ((hr.update_eq hn).symm.trans hu))
    refine ⟨⟨fun _ => ⟨r, hr⟩, fun _ => ⟨_, _, happly⟩⟩, ?_, ?_, ?_⟩
    · intro q w' h
      obtain ⟨rfl, rfl⟩ := EStateM.Result.ok.inj (happly.symm.trans h)
      exact ⟨r, _, hr, hr.commits w₁.now hn, rfl⟩
    · intro f w' h
      cases happly.symm.trans h
    · intro h later r₀ hs hread he _ _ _
      obtain ⟨n, q, hwrites, hq, hrev, hsame⟩ :=
        History.row_after (run?_of_readRun hread) later
      have hrow := run?_of_readRun hr.read
      rw [← hs] at hq
      obtain rfl := Option.some.inj (hrow.symm.trans hq)
      have hn : n = 0 := by
        have := hr.revision _ he
        omega
      exact ⟨by simp [hwrites, hn], by rw [hrow, hsame hn]⟩

def underway : History :=
  let now := Instant.epoch2024
  let flow : Flow := ⟨"flow", "", "workflow", none, none, now, now⟩
  let version : FlowVersion :=
    ⟨"v", "flow", ⟨none, none⟩, ⟨[], [], none, none, none⟩, none, now⟩
  let run : Run := ⟨"run", "flow", "v", none, .byHand,
    [("a", .pending .null), ("b", .pending .null), ("c", .pending .null)], [], 1, now, now⟩
  [.claim "run" "b" [.pending] .running, .createRun run, .insertVersion version,
    .createFlow flow].map fun op => (now, op)

def unsuccessful : History :=
  [(.epoch2024, .update "run" [("a", .toStatus .running), ("c", .toStatus .completed)] none),
    (.epoch2024, .claim "run" "b" [.pending] .running)]

def mixedBatch : List (String × NodeUpdate) :=
  [("b", .finish .completed (.int 1)), ("c", ⟨none, some (.str "seed"), some none⟩),
    ("a", .toStatus .running)]

theorem batch_of_three_keys :
    let w : World := { World.start with store := History.store (unsuccessful ++ underway) }
    (mixedBatch.map Prod.fst).Nodup ∧ letRival .update w = .ok () w ∧
      ∃ r q w', underway.store.readRun "run" = .ok (some r) ∧
        updateExpecting "run" mixedBatch (some r.revision) w = .ok q w' ∧ q.revision = 3 ∧
        History.writes "run" (unsuccessful ++ underway) = underway.writes "run" := by
  intro w
  have hn : (mixedBatch.map Prod.fst).Nodup := by decide +kernel
  have hw : letRival .update w = .ok () w := by rfl
  obtain ⟨r₀, hr₀, hrev₀⟩ := Option.any_eq_true _ _ |>.mp
    (show (underway.store.run? "run").any (fun r => decide (r.revision = 2)) = true by
      decide +kernel)
  obtain ⟨r, hr, hcheck⟩ := Option.any_eq_true _ _ |>.mp
    (show (w.store.run? "run").any (fun r => decide (r.revision = 2) &&
      (checkUpdates r mixedBatch).toBool) = true by decide +kernel)
  simp only [Bool.and_eq_true, decide_eq_true_eq] at hrev₀ hcheck
  have hread₀ : underway.store.readRun "run" = .ok (some r₀) := by
    rw [readRun_eq hr₀, hrev₀]
    rfl
  have hadmits : Admits w.store "run" (some r₀.revision) mixedBatch r := by
    refine ⟨?_, ?_, ?_⟩
    · rw [readRun_eq hr, hcheck.1]
      rfl
    · simp [hcheck.1, hrev₀]
    · cases hc : checkUpdates r mixedBatch with
      | error f => simp [hc, Except.toBool] at hcheck
      | ok o => exact checkUpdates_ok hc
  obtain ⟨hiff, hcommits, -, hsince⟩ := batch_atomic hn hw "run" (some r₀.revision)
  obtain ⟨q, w', hq⟩ := hiff.mpr ⟨r, hadmits⟩
  obtain ⟨r', s', hr', hc, -⟩ := hcommits q w' hq
  have hsame : r' = r := by
    simpa using hr'.read.symm.trans hadmits.read
  refine ⟨hn, hw, r₀, q, w', hread₀, hq, ?_, ?_⟩
  · rw [hc.row, hsame, hcheck.1]
    rfl
  · exact (hsince underway unsuccessful r₀ rfl hread₀ rfl q w' hq).1

end World

end Workflow
