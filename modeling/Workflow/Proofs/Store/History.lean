import Workflow.Proofs.Store.Enrolled

/-!
Histories of a store: operations with any arguments, of which some are refused. The log explains
every status of a run unless new keys shared a state that was changed.
-/

namespace Workflow.Store

inductive Operation where
  | createFlow (f : Flow)
  | insertVersion (v : FlowVersion)
  | createRun (r : Run)
  | update (id : String) (updates : List (String × NodeUpdate)) (expected : Option Int)
  | claim (id key : String) (sources : List Status) (target : Status)
  | register (id : String) (handed : Handover) (updates : List (String × NodeUpdate))
  | append (e : Event)
deriving DecidableEq

namespace Operation

def perform (now : Instant) (s : Store) : Operation → Except Failure (Option Run × Store)
  | .createFlow f => (s.createFlow now f).map (none, ·)
  | .insertVersion v => (s.insertVersion now v).map (none, ·)
  | .createRun r => (s.createRun now r).map (none, ·)
  | .update id updates expected =>
    (s.update now id updates expected).map fun (q, s) => (some q, s)
  | .claim id key sources target => s.claim now id key sources target
  | .register id handed updates =>
    (s.enroll now id handed updates).map fun (q, s) => (some q, s)
  | .append e => .ok (none, s.log e)

def births (id : String) : Operation → Keyed NodeState
  | .createRun r => if r.id = id then r.states else []
  | .register i handed _ => if i = id then registered handed.valued else []
  | _ => []

def newRun? (id : String) : Operation → Option Run
  | .createRun r => if r.id = id then some r else none
  | _ => none

/-- The operation changes the status of no state that several keys of the run share. -/
def Unshared (id : String) : Operation → Prop
  | .register i handed updates => i = id → Apart handed.sharers updates
  | _ => True

instance (id : String) : DecidablePred (Unshared id) := fun op => by
  unfold Unshared
  cases op <;> infer_instance

/-- A batch names each key once, and changes of status are logged by the writes alone. -/
def Proper : Operation → Prop
  | .update _ updates _ | .register _ _ updates => (updates.map Prod.fst).Nodup
  | .append e => e.kind ≠ .nodeStatusChanged
  | _ => True

instance : DecidablePred Proper := fun op => by
  unfold Proper
  cases op <;> infer_instance

end Operation

end Store

abbrev History := List (Instant × Store.Operation)

namespace History

open Store

def store : History → Store
  | [] => .empty
  | (now, op) :: h =>
    match op.perform now (store h) with
    | .ok (_, s) => s
    | .error _ => store h

def born (id key : String) : History → Option NodeState
  | [] => none
  | (now, op) :: h =>
    match op.perform now (store h) with
    | .ok _ => (born id key h).or (Keyed.find? (op.births id) key)
    | .error _ => born id key h

def created (id : String) : History → Option Run
  | [] => none
  | (now, op) :: h =>
    match op.perform now (store h) with
    | .ok _ => (created id h).or (op.newRun? id)
    | .error _ => created id h

def Unshared (id : String) : History → Prop
  | [] => True
  | (now, op) :: h =>
    match op.perform now (store h) with
    | .ok _ => Unshared id h ∧ op.Unshared id
    | .error _ => Unshared id h

instance decidableUnshared (id : String) : DecidablePred (Unshared id)
  | [] => .isTrue trivial
  | (now, op) :: h => by
    have := decidableUnshared id h
    unfold Unshared
    split <;> infer_instance

def writes (id : String) : History → Nat
  | [] => 0
  | (now, op) :: h =>
    match op.perform now (store h) with
    | .ok (row, _) => writes id h + if row.any (·.id = id) then 1 else 0
    | .error _ => writes id h

end History

namespace Store

def changes (s : Store) (id key : String) : List Event :=
  (s.findEvents none (some id) [.nodeStatusChanged]).filter fun e => e.nodeKey == some key

variable {now : Instant} {s s' : Store} {r q : Run} {id key : String} {o : Option Run}
  {op : Operation} {e : Event} {es : List Event} {born : String → Option Status} {n : Nat}

lemma changes_eq : s.changes id key = changesIn id key s.events := by
  rw [changes, findEvents, List.filter_filter, changesIn]
  congr 1
  funext e
  simp only [Event.isChange, Option.all_none, Option.all_some, Bool.true_and, List.isEmpty_cons,
    Bool.false_or, List.contains_cons, List.contains_nil, Bool.or_false]
  ac_rfl

inductive Effect (now : Instant) (s : Store) (op : Operation) : Option Run → Store → Prop where
  | silent (s' : Store) (es : List Event) (hruns : s'.runs = s.runs)
      (hevents : s'.events = s.events)
      (hes : ∀ e ∈ es, e.kind ≠ .nodeStatusChanged) (hb : ∀ id, op.births id = [])
      (hn : ∀ id, op.newRun? id = none) (ha : ∀ id, op.Unshared id) :
      Effect now s op none (s'.logAll es)
  | created {r : Run} (hop : op = .createRun r) (hfresh : s.run? r.id = none) :
      Effect now s op none ({ s with runs := s.runs ++ [r] }.log (runStarted now r))
  | rewritten {id new r q es} (hr : s.run? id = some r)
      (h : Succeeds id new (op.Unshared id) r q es)
      (hb : ∀ i, op.births i = if id = i then new else []) (hn : ∀ i, op.newRun? i = none)
      (ha : ∀ i, id ≠ i → op.Unshared i) : Effect now s op (some q) (s.put q es)

lemma map_ok {α β : Type} {x : Except Failure α} {g : α → β} {b : β} (h : x.map g = .ok b) :
    ∃ a, x = .ok a ∧ g a = b := by
  cases x with
  | error f => cases h
  | ok a => exact ⟨a, rfl, Except.ok.inj h⟩

lemma Effect.of_rewrites {instances : List (String × List NodeState)}
    {shares : String → List String} {us : List (String × NodeUpdate)}
    (hw : Rewrites now id instances shares us s q s')
    (hshares : Sharing (registered instances) shares) (hu : (us.map Prod.fst).Nodup)
    (hb : ∀ i, op.births i = if id = i then registered instances else [])
    (hn : ∀ i, op.newRun? i = none) (ha : op.Unshared id ↔ Apart shares us)
    (ha' : ∀ i, id ≠ i → op.Unshared i) : Effect now s op (some q) s' := by
  obtain ⟨r, es, hr, rfl, h⟩ := hw.succeeds hshares hu
  rw [← ha] at h
  exact .rewritten hr h hb hn ha'

lemma apart_alone {us : List (String × NodeUpdate)} : Apart (fun key => [key]) us :=
  fun _ _ _ _ hk => List.mem_singleton.mp hk

lemma Effect.of_perform (hp : op.Proper) (h : op.perform now s = .ok (o, s')) :
    Effect now s op o s' := by
  cases op with
  | createFlow f =>
    obtain ⟨s₁, hs, he⟩ := map_ok h
    obtain ⟨rfl, rfl⟩ := Prod.mk.inj he
    rw [createFlow] at hs
    split at hs
    · cases hs
    · obtain rfl := Except.ok.inj hs
      exact .silent { s with flows := s.flows ++ [f] } [flowCreated now f] rfl rfl
        (by simp [flowCreated]) (fun _ => rfl) (fun _ => rfl) fun _ => trivial
  | insertVersion v =>
    obtain ⟨s₁, hs, he⟩ := map_ok h
    obtain ⟨rfl, rfl⟩ := Prod.mk.inj he
    rw [insertVersion] at hs
    split at hs
    · cases hs
    · cases hs
    · obtain rfl := Except.ok.inj hs
      exact .silent
        { s with flows := s.flows.map (pointAt now v), versions := s.versions ++ [v.written] }
        [versionCreated now v] rfl rfl (by simp [versionCreated]) (fun _ => rfl) (fun _ => rfl)
        fun _ => trivial
  | createRun r =>
    obtain ⟨s₁, hs, he⟩ := map_ok h
    obtain ⟨rfl, rfl⟩ := Prod.mk.inj he
    obtain ⟨hfresh, rfl⟩ := createRun_ok hs
    exact .created rfl hfresh
  | update id us expected =>
    obtain ⟨⟨q, s₁⟩, hs, he⟩ := map_ok h
    obtain ⟨rfl, rfl⟩ := Prod.mk.inj he
    exact .of_rewrites (update_ok hs) .alone hp (fun i => by split <;> rfl) (fun _ => rfl)
      (iff_of_true trivial apart_alone) fun _ _ => trivial
  | claim id key sources target =>
    rcases claim_ok h with ⟨rfl, rfl⟩ | ⟨q, rfl, hw⟩
    · exact .silent _ [] rfl rfl (by simp) (fun _ => rfl) (fun _ => rfl) fun _ => trivial
    · exact .of_rewrites hw .alone (by simp) (fun i => by split <;> rfl) (fun _ => rfl)
        (iff_of_true trivial apart_alone) fun _ _ => trivial
  | register id handed us =>
    obtain ⟨⟨q, s₁⟩, hs, he⟩ := map_ok h
    obtain ⟨rfl, rfl⟩ := Prod.mk.inj he
    exact .of_rewrites (enroll_ok hs) handed.sharing hp (fun _ => rfl) (fun _ => rfl)
      ⟨fun ha => ha rfl, fun ha _ => ha⟩ fun i hi he => absurd he hi
  | append e =>
    obtain ⟨rfl, rfl⟩ := Prod.mk.inj (Except.ok.inj h)
    have he : ∀ e' ∈ [e], e'.kind ≠ .nodeStatusChanged := List.forall_mem_singleton.mpr hp
    exact .silent _ _ rfl rfl he (fun _ => rfl) (fun _ => rfl) fun _ => trivial

lemma changesIn_started {i : String} (s : Store) (r : Run) (key : String) :
    changesIn i key ({ s with runs := s.runs ++ [r] }.log (runStarted now r)).events =
      changesIn i key s.events := by
  have hquiet : ∀ e ∈ [runStarted now r], Event.isChange i key e = false := by
    simp [Event.isChange, runStarted]
  exact changesIn_logAll (s := { s with runs := s.runs ++ [r] }) hquiet

inductive Accounted (id : String) (s : Store) (born : String → Option Status) (apart : Prop) :
    Option Run → Nat → Prop where
  | absent (hrow : s.run? id = none) (hborn : ∀ key, born key = none)
      (hlog : ∀ key, changesIn id key s.events = []) (hap : apart) :
      Accounted id s born apart none 0
  | present {r r₀ n} (hrow : s.run? id = some r) (hrev : r.revision = r₀.revision + (n : Nat))
      (hborn : ∀ key, born key = none ↔ r.statusAt key = none)
      (hlog : ∀ key, born key = none → changesIn id key s.events = [])
      (htold : r.ToldBy born s.events ↔ apart) : Accounted id s born apart (some r₀) n

namespace Accounted

variable {c : Option Run} {apart apart' : Prop}

lemma keep (h : Accounted id s born apart c n) (hrow : s'.run? id = s.run? id)
    (hlog : ∀ key, changesIn id key s'.events = changesIn id key s.events) :
    Accounted id s' born apart c n := by
  cases h with
  | absent hr hb hl ha =>
    exact .absent (hrow.trans hr) hb (fun key => (hlog key).trans (hl key)) ha
  | present hr hrev hb hl ht =>
    refine .present (hrow.trans hr) hrev hb (fun key hk => (hlog key).trans (hl key hk)) ?_
    rw [← ht, Run.ToldBy, Run.ToldBy, id_of_run? hr]
    simp only [hlog]

lemma and_true (h : Accounted id s born apart c n) (ha : apart') :
    Accounted id s born (apart ∧ apart') c n := by
  rwa [and_iff_left ha]

lemma told_put {new : Keyed NodeState} (hrow : s.run? id = some r)
    (hborn : ∀ key, born key = none ↔ r.statusAt key = none)
    (hlog : ∀ key, born key = none → changesIn id key s.events = [])
    (h : Succeeds id new apart' r q es) :
    q.ToldBy (bornWith born new) (s.events ++ es) ↔ r.ToldBy born s.events ∧ apart' := by
  -- What was told stays told, and what was not told of is never told of again.
  have hid := id_of_run? hrow
  rw [← h.told]
  constructor
  · intro ht
    refine ⟨fun key => ?_, fun key => ?_⟩
    · have hkey := ht key
      rw [h.header, changesIn_append] at hkey
      rw [hid]
      cases hs : r.statusAt key with
      | none =>
        have hb := (hborn key).mpr hs
        rw [hb, hlog key hb]
        exact .absent
      | some a =>
        have hnew : key ∉ Keyed.keys new := fun hk => by
          rw [(h.fresh key hk).1] at hs
          cases hs
        have hold := h.old key hnew
        rw [hs] at hold
        rw [bornWith_of_notMem hnew] at hkey
        exact hkey.of_append hold fun hb => by
          rw [(hborn key).mp hb] at hs
          cases hs
    · by_cases hnew : key ∈ Keyed.keys new
      · have hs := (h.fresh key hnew).1
        have hb := (hborn key).mpr hs
        have hkey := ht key
        rw [h.header, changesIn_append, hlog key hb, List.nil_append, bornWith, hb] at hkey
        rwa [bornWith, hs]
      · rw [bornWith_of_notMem hnew]
        exact h.old key hnew
  · rintro ⟨ht, hnew⟩ key
    have hkey := ht key
    rw [hid] at hkey
    rw [h.header, changesIn_append]
    exact hkey.append (hnew key)

lemma put {new : Keyed NodeState} (h : Accounted id s born apart c n) (hr : s.run? id = some r)
    (hw : Succeeds id new apart' r q es) :
    Accounted id (s.put q es) (bornWith born new) (apart ∧ apart') c (n + 1) := by
  cases h with
  | absent hrow => cases hr.symm.trans hrow
  | @present r r₀ n hrow hrev hb hl ht =>
    obtain rfl := Option.some.inj (hr.symm.trans hrow)
    refine .present (r := q) ?_ ?_ (fun key => ?_) (fun key hkey => ?_) ?_
    · rw [run?_put, if_pos hw.header.symm, hr]
      rfl
    · rw [hw.revision, hrev]
      push_cast
      omega
    · by_cases hnew : key ∈ Keyed.keys new
      · refine iff_of_false (fun hnone => ?_) (hw.fresh key hnew).2
        exact Keyed.find?_eq_none_iff.mp
          (Option.map_eq_none_iff.mp (Option.or_eq_none_iff.mp hnone).2) hnew
      · rw [bornWith_of_notMem hnew, hb, (hw.old key hnew).none_iff]
    · have hnew : key ∉ Keyed.keys new := Keyed.find?_eq_none_iff.mp
        (Option.map_eq_none_iff.mp (Option.or_eq_none_iff.mp hkey).2)
      rw [bornWith_of_notMem hnew] at hkey
      have hquiet := hw.old key hnew
      rw [(hb key).mp hkey] at hquiet
      refine (changesIn_logAll fun e he => ?_).trans (hl key hkey)
      simpa using List.filter_eq_nil_iff.mp hquiet.of_none e he
    · rw [← ht, ← told_put hr hb hl hw]
      exact forall_congr' fun key => traced_logAll_iff

lemma keep_put {i : String} (h : Accounted id s born apart c n) (hi : i ≠ id) (hq : q.id = i)
    (hown : ∀ e ∈ es, e.runId = some i) : Accounted id (s.put q es) born apart c n := by
  refine h.keep ?_ fun key => ?_
  · rw [run?_put, if_neg fun he => hi (he.trans hq).symm]
  · refine changesIn_logAll fun e he => ?_
    simp [Event.isChange, hown e he, hi]

lemma create (h : Accounted r.id s born apart c n) (hr : s.run? r.id = none) :
    Accounted r.id ({ s with runs := s.runs ++ [r] }.log (runStarted now r))
      (bornWith born r.states) apart (c.or (some r)) n := by
  cases h with
  | present hr' => cases hr.symm.trans hr'
  | absent _ hb hl ha =>
    have hborn : ∀ key, bornWith born r.states key = r.statusAt key := fun key => by
      simp [bornWith, hb, Run.statusAt, Run.state?]
    have hlog : ∀ key, changesIn r.id key
        ({ s with runs := s.runs ++ [r] }.log (runStarted now r)).events = [] := fun key =>
      (changesIn_started s r key).trans (hl key)
    refine .present (r := r) ?_ (by simp) (fun key => by rw [hborn]) (fun key _ => hlog key)
      (iff_of_true (fun key => ?_) ha)
    · change (s.runs ++ [r]).find? _ = _
      rw [List.find?_append, show s.runs.find? (fun q => q.id = r.id) = none from hr]
      simp
    · rw [hborn, hlog]
      cases r.statusAt key with
      | none => exact .absent
      | some a => exact .present .nil

lemma keep_create (h : Accounted id s born apart c n) (hr : r.id ≠ id) :
    Accounted id ({ s with runs := s.runs ++ [r] }.log (runStarted now r)) born apart c n := by
  refine h.keep ?_ fun key => changesIn_started s r key
  change (s.runs ++ [r]).find? _ = _
  rw [List.find?_append, run?]
  simp [hr]

lemma told_iff (h : Accounted id s born apart c n) :
    (∀ key, Traced (born key) (changesIn id key s.events) ((s.run? id).bind (·.statusAt key))) ↔
      apart := by
  cases h with
  | absent hrow hborn hlog ha =>
    refine iff_of_true (fun key => ?_) ha
    rw [hrow, hborn, hlog]
    exact .absent
  | present hrow _ _ _ htold =>
    rw [← htold, hrow]
    simp only [Run.ToldBy, id_of_run? hrow, Option.bind_some]

lemma revision (h : Accounted id s born apart c n) (hr : s.run? id = some r) :
    ∃ r₀, c = some r₀ ∧ r.revision = r₀.revision + n := by
  cases h with
  | absent hrow => cases hrow.symm.trans hr
  | present hrow hrev =>
    obtain rfl := Option.some.inj (hrow.symm.trans hr)
    exact ⟨_, rfl, hrev⟩

end Accounted

def Numbered (s : Store) : Prop :=
  s.events.map (·.id) = (List.range s.events.length).map fun i => some ((i + 1 : Nat) : Int)

lemma Numbered.log (h : s.Numbered) (e : Event) : (s.log e).Numbered := by
  rw [Numbered] at h
  simp [Numbered, Store.log, List.range_succ, h]

lemma Numbered.logAll (h : s.Numbered) (es : List Event) : (s.logAll es).Numbered := by
  induction es generalizing s with
  | nil => exact h
  | cons e rest ih => exact ih (h.log e)

lemma Numbered.congr (h : s.Numbered) (hs : s'.events = s.events) : s'.Numbered := by
  rw [Numbered, hs]
  exact h

lemma Effect.numbered (h : Effect now s op o s') (hn : s.Numbered) : s'.Numbered := by
  cases h with
  | silent _ _ _ hevents => exact (hn.congr hevents).logAll _
  | created => exact Numbered.log (s := { s with runs := _ }) hn _
  | rewritten =>
    refine Numbered.logAll ?_ _
    exact hn.congr rfl

end Store

namespace History

open Store

variable {h : History} {now : Instant} {op : Operation} {o : Option Run} {s : Store}

lemma status_born (h : History) (id : String) (op : Operation) :
    (fun key => ((h.born id key).or (Keyed.find? (op.births id) key)).map (·.status)) =
      bornWith (fun key => (h.born id key).map (·.status)) (op.births id) := by
  funext key
  rw [bornWith]
  cases h.born id key <;> rfl

lemma bornWith_nil {born : String → Option Status} : bornWith born [] = born := by
  funext key
  simp [bornWith]

lemma accounted (hp : ∀ x ∈ h, x.2.Proper) (id : String) :
    Accounted id h.store (fun key => (h.born id key).map (·.status)) (h.Unshared id)
      (h.created id) (h.writes id) := by
  induction h generalizing id with
  | nil => exact .absent rfl (fun _ => rfl) (fun _ => rfl) trivial
  | cons x h ih =>
    obtain ⟨now, op⟩ := x
    have hih := ih fun x hx => hp x (List.mem_cons_of_mem _ hx)
    cases hop : op.perform now (store h) with
    | error f =>
      simp only [store, born, created, writes, Unshared, hop]
      exact hih id
    | ok result =>
      obtain ⟨o, s⟩ := result
      simp only [store, born, created, writes, Unshared, hop]
      rw [status_born]
      cases Effect.of_perform (hp (now, op) List.mem_cons_self) hop with
      | silent _ _ hruns hevents hes hb hn ha =>
        rw [hb, hn, bornWith_nil, Option.or_none]
        simp only [Option.any_none, Bool.false_eq_true, if_false, Nat.add_zero]
        refine ((hih id).and_true (ha id)).keep ?_ fun key => ?_
        · rw [run?_logAll, run?, run?, hruns]
        · rw [changesIn_logAll, hevents]
          intro e he
          simp [Event.isChange, hes e he]
      | @created r hr hfresh =>
        subst hr
        simp only [Operation.births, Operation.newRun?, Option.any_none, Bool.false_eq_true,
          if_false, Nat.add_zero]
        by_cases hid : r.id = id
        · subst hid
          rw [if_pos rfl, if_pos rfl]
          exact ((hih r.id).create hfresh).and_true trivial
        · rw [if_neg hid, if_neg hid, bornWith_nil, Option.or_none]
          exact ((hih id).keep_create hid).and_true trivial
      | @rewritten i new r q es hr hw hb hn ha =>
        rw [hb, hn, Option.or_none]
        by_cases hid : i = id
        · subst hid
          simpa [hw.header] using (hih i).put hr hw
        · have hne : q.id ≠ id := fun he => hid (hw.header.symm.trans he)
          simpa [hid, hne, bornWith_nil] using
            ((hih id).and_true (ha id hid)).keep_put hid hw.header hw.own

lemma numbered (hp : ∀ x ∈ h, x.2.Proper) : h.store.Numbered := by
  induction h with
  | nil => rfl
  | cons x h ih =>
    obtain ⟨now, op⟩ := x
    have hih := ih fun x hx => hp x (List.mem_cons_of_mem _ hx)
    rw [store]
    cases hop : op.perform now (store h) with
    | error f => exact hih
    | ok result => exact (Effect.of_perform (hp (now, op) List.mem_cons_self) hop).numbered hih

/-- Entries have the numbers from 1 on, and the revision of a row counts its writes. The changes of
every key's status are a chain of allowed moves from the status that the key was created with to the
one that is read, exactly if the row can be read and no change was made of a state that several new
keys shared. A key then leaves pending at most once. -/
theorem log_explains_statuses_iff (hp : ∀ x ∈ h, x.2.Proper) (id : String) :
    h.store.Numbered ∧
      (∀ r, h.store.run? id = some r →
        ∃ r₀, h.created id = some r₀ ∧ r.revision = r₀.revision + h.writes id) ∧
      ((∃ o, h.store.readRun id = .ok o ∧ ∀ key, Traced ((h.born id key).map (·.status))
          (h.store.changes id key) (o.bind (·.statusAt key))) ↔
        (∀ r, h.store.run? id = some r → holdsRevision r.revision = true) ∧ h.Unshared id) ∧
      (h.Unshared id → ∀ key,
        (h.store.changes id key).countP (fun e => decide (e.tellsFrom .pending)) ≤ 1) := by
  have hacc := accounted hp id
  have htold := hacc.told_iff
  simp only [← changes_eq] at htold
  refine ⟨numbered hp, fun _ hr => hacc.revision hr, ?_,
    fun hap key => (htold.mpr hap key).leaves_pending_once⟩
  rw [← htold]
  cases hr : h.store.run? id with
  | none =>
    have hread : h.store.readRun id = .ok none := by rw [readRun, hr]
    simp [hread]
  | some r =>
    rw [readRun_eq hr]
    by_cases hrev : holdsRevision r.revision = true
    · simp [hrev]
    · simp [hrev]

def fannedOut : History :=
  let now := Instant.epoch2024
  let flow : Flow := ⟨"flow", "", "workflow", none, none, now, now⟩
  let version : FlowVersion :=
    ⟨"v", "flow", ⟨none, none⟩, ⟨[], [], none, none, none⟩, none, now⟩
  let run : Run := ⟨"run", "flow", "v", none, .byHand,
    [("split", .pending .null), ("work", .pending .null)], [], 1, now, now⟩
  let states : Handover :=
    ⟨[NodeState.pending (.int 1), NodeState.pending (.int 2)], [("work", [0, 1])]⟩
  [.update "run" [("work_0", .finish .completed .null)] none,
    .claim "run" "work_0" [.failed] .running,
    .update "run" [("work_0", .fail "no"), ("work_1", .toStatus .running)] (some 3),
    .append (runStarted now run),
    .register "run" states [("split", .finish .completed .null), ("work_0", .toStatus .running)],
    .register "run" states [("work_0", .toStatus .completed)],
    .claim "run" "split" [.pending] .running,
    .claim "run" "split" [.pending] .running,
    .claim "other" "split" [.pending] .running,
    .createRun run,
    .insertVersion version,
    .createFlow flow].map fun op => (now, op)

theorem log_of_instance :
    (∀ x ∈ fannedOut, x.2.Proper) ∧
      (fannedOut.store.changes "run" "work_0").map (·.status) =
        ["running", "failed", "running", "completed"].map some ∧
      ∃ o, fannedOut.store.readRun "run" = .ok o ∧
        ∀ key, Traced ((fannedOut.born "run" key).map (·.status))
          (fannedOut.store.changes "run" key) (o.bind (·.statusAt key)) := by
  have hp : ∀ x ∈ fannedOut, x.2.Proper := by decide +kernel
  have hrev : (fannedOut.store.run? "run").all (fun r => holdsRevision r.revision) = true := by
    decide +kernel
  refine ⟨hp, by decide +kernel, (log_explains_statuses_iff hp "run").2.2.1.mpr ⟨?_, ?_⟩⟩
  · intro r hr
    rwa [hr] at hrev
  · decide +kernel

def startedTogether : History :=
  let now := Instant.epoch2024
  let flow : Flow := ⟨"flow", "", "workflow", none, none, now, now⟩
  let version : FlowVersion :=
    ⟨"v", "flow", ⟨none, none⟩, ⟨[], [], none, none, none⟩, none, now⟩
  let run : Run := ⟨"run", "flow", "v", none, .byHand, [("W", .pending .null)], [], 1, now, now⟩
  [.register "run" ⟨[.pending .null], [("W", [0, 0])]⟩ [("W_0", .toStatus .running)],
    .createRun run, .insertVersion version, .createFlow flow].map fun op => (now, op)

def lastRevision : History :=
  let now := Instant.epoch2024
  let flow : Flow := ⟨"flow", "", "workflow", none, none, now, now⟩
  let version : FlowVersion :=
    ⟨"v", "flow", ⟨none, none⟩, ⟨[], [], none, none, none⟩, none, now⟩
  let run : Run := ⟨"run", "flow", "v", none, .byHand, [("W", .pending .null)], [],
    9223372036854775807, now, now⟩
  [.claim "run" "W" [.pending] .running, .createRun run, .insertVersion version,
    .createFlow flow].map fun op => (now, op)

theorem shared_state_unexplained :
    (∀ x ∈ startedTogether ++ lastRevision, x.2.Proper) ∧
      (startedTogether.born "run" "W_1").map (·.status) = some .pending ∧
      startedTogether.store.changes "run" "W_1" = [] ∧
      ((startedTogether.store.run? "run").bind (·.statusAt "W_1")) = some .running ∧
      lastRevision.writes "run" = 1 ∧
      lastRevision.store.readRun "run" = .error unreadable := by
  -- The second instance is running, and no entry tells of it; and a run that was claimed cannot be
  -- read.
  decide +kernel

end History

end Workflow
