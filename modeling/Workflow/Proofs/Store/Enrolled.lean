import Workflow.Proofs.Store.Batch

/-!
What the log tells of a write when new keys share states. A change of status that comes to a key
through another one is not in the log under the key's name.
-/

namespace Workflow

namespace Keyed

lemma find?_foldl_set {α : Type} (l : List String) (m : Keyed α) (v : α) (k : String) :
    find? (l.foldl (fun m k => set m k v) m) k = if k ∈ l then some v else find? m k := by
  induction l generalizing m with
  | nil => simp
  | cons j l ih =>
    rw [List.foldl_cons, ih, find?_set]
    by_cases hl : k ∈ l
    · simp [hl]
    · by_cases hj : j = k
      · simp [hj]
      · simp [hl, hj, Ne.symm hj]

lemma foldl_set_eq {α : Type} {l : List String} {k : String} (v : α) (hk : k ∈ l)
    (h : ∀ j ∈ l, j = k) (m : Keyed α) : l.foldl (fun m k => set m k v) m = set m k v := by
  have hset : ∀ m : Keyed α, set (set m k v) k v = set m k v := by
    intro m
    induction m with
    | nil => simp [set]
    | cons e m ih => by_cases he : e.1 = k <;> simp [set, he, ih]
  have hlast : ∀ l : List String, (∀ j ∈ l, j = k) →
      l.foldl (fun m k => set m k v) (set m k v) = set m k v := by
    intro l hl
    induction l with
    | nil => rfl
    | cons j l ih =>
      rw [List.foldl_cons, hl j List.mem_cons_self, hset]
      exact ih fun i hi => hl i (List.mem_cons_of_mem _ hi)
  cases l with
  | nil => cases hk
  | cons j l =>
    rw [List.foldl_cons, h j List.mem_cons_self]
    exact hlast l fun i hi => h i (List.mem_cons_of_mem _ hi)

end Keyed

def Astray (a : Status) (es : List Event) (o : Option Status) : Prop :=
  match es with
  | [] => o ≠ some a
  | e :: _ => ¬ e.tellsFrom a

namespace Astray

variable {a b c : Status} {es : List Event} {e : Event} {o : Option Status}

lemma not_traced (h : Astray a es o) : ¬ Traced (some a) es o := by
  intro ht
  cases ht with
  | present hc =>
    cases hc with
    | nil => exact h rfl
    | cons hfrom => exact h hfrom

lemma moved (h : Astray a es (some b)) (hc : a ≠ c) : Astray a es (some c) := by
  cases es with
  | nil => exact fun he => hc (Option.some.inj he).symm
  | cons => exact h

lemma snoc (h : Astray a es (some b)) (he : e.tellsFrom b) : Astray a (es ++ [e]) o := by
  cases es with
  | nil => exact fun ha => h (congrArg some (Event.tellsFrom_unique he ha))
  | cons => exact h

end Astray

namespace Traced

variable {o b : Option Status} {es fs : List Event} {a c : Status} {e : Event} {m m' : Option Status}

lemma snoc (h : Traced o es (some a)) (he : e.tellsFrom a) (hs : e.status = some c.name)
    (hm : a.canBecome c = true) : Traced o (es ++ [e]) (some c) := by
  obtain ⟨_, rfl, hc⟩ := h.to_some
  exact .present (hc.snoc he hs hm)

lemma append (h : Traced o es m) (h' : Traced (m.or b) fs m') :
    Traced (o.or b) (es ++ fs) m' := by
  cases h with
  | absent => exact h'
  | present hc =>
    cases h' with
    | present hc' => exact .present (hc.append hc')

lemma of_append (h : Traced o (es ++ fs) m) (h' : Traced (some a) fs m) (hm : o ≠ none) :
    Traced o es (some a) := by
  cases h' with
  | present hc' =>
    obtain ⟨b, rfl, hc⟩ := h.to_some
    obtain ⟨a', hes, hfs⟩ := hc.of_append
    obtain rfl := hfs.start_unique hc'
    exact .present hes

end Traced

namespace Store

variable {now : Instant} {s s' : Store} {r q : Run} {d : Draft} {id key k : String}
  {u : NodeUpdate} {us : List (String × NodeUpdate)} {x : String × NodeUpdate}
  {st : NodeState} {a t : Status} {b o : Option Status} {new : Keyed NodeState}
  {shares : String → List String}

structure Sharing (new : Keyed NodeState) (shares : String → List String) : Prop where
  self : ∀ key, key ∈ shares key
  same : ∀ {key k}, k ∈ shares key → ∀ x, key ∈ shares x ↔ k ∈ shares x
  given : ∀ {key k}, k ∈ shares key → k ≠ key →
    k ∈ Keyed.keys new ∧ Keyed.find? new k = Keyed.find? new key

namespace Sharing

lemma symm (h : Sharing new shares) (hk : k ∈ shares key) : key ∈ shares k :=
  (h.same hk k).mpr (h.self k)

lemma alone : Sharing new fun key => [key] where
  self _ := List.mem_singleton_self _
  same hk x := by rw [List.mem_singleton.mp hk]
  given hk hne := absurd (List.mem_singleton.mp hk) hne

end Sharing

namespace Handover

variable {h : Handover}

lemma mem_sharers : k ∈ h.sharers key ↔
    k = key ∨ k ∈ Keyed.keys h.places ∧ Keyed.find? h.places k = Keyed.find? h.places key := by
  rw [sharers]
  split
  · rename_i hkey
    rw [Keyed.has_iff_mem_keys] at hkey
    rw [List.mem_filter, decide_eq_true_eq]
    refine ⟨.inr, ?_⟩
    rintro (rfl | hk)
    · exact ⟨hkey, rfl⟩
    · exact hk
  · rename_i hkey
    rw [Keyed.has_iff_mem_keys] at hkey
    rw [List.mem_singleton]
    refine ⟨.inl, ?_⟩
    rintro (rfl | ⟨hk, he⟩)
    · rfl
    · rw [Keyed.find?_eq_none_iff.mpr hkey, Keyed.find?_eq_none_iff] at he
      exact absurd hk he

lemma registered_valued (h : Handover) :
    registered h.valued = Keyed.mapValues h.states.get h.places := by
  have hkeys : ∀ (t : String) (i : Nat) (places : List (Fin h.states.length)),
      instanceStates t i (places.map fun place => h.states[place]) =
        Keyed.mapValues h.states.get (keysOf t i places) := by
    intro t i places
    induction places generalizing i with
    | nil => rfl
    | cons place places ih =>
      rw [List.map_cons, instanceStates, ih]
      rfl
  rw [registered, valued, List.flatMap_map, Keyed.mapValues, places, List.map_flatMap]
  exact List.flatMap_congr fun e _ => hkeys e.1 0 e.2

lemma sharing (h : Handover) : Sharing (registered h.valued) h.sharers where
  self key := mem_sharers.mpr (.inl rfl)
  same {key k} hk x := by
    rcases mem_sharers.mp hk with rfl | ⟨hk, he⟩
    · rfl
    · have hkey : key ∈ Keyed.keys h.places := by
        rw [← Keyed.has_iff_mem_keys, Keyed.has] at hk ⊢
        rwa [← he]
      rw [mem_sharers, mem_sharers, he]
      constructor
      · rintro (rfl | hx)
        · exact .inr ⟨hk, rfl⟩
        · exact .inr ⟨hk, hx.2⟩
      · rintro (rfl | hx)
        · exact .inr ⟨hkey, he.symm⟩
        · exact .inr ⟨hkey, hx.2⟩
  given hk hne := by
    obtain ⟨hk, he⟩ := (mem_sharers.mp hk).resolve_left hne
    rw [registered_valued, Keyed.find?_mapValues, Keyed.find?_mapValues, he, Keyed.keys_mapValues]
    exact ⟨hk, rfl⟩

end Handover

/-! One update -/

lemma run_applyShared (now : Instant) (shares : String → List String) (u : NodeUpdate)
    (hs : d.run.state? key = some st) :
    (applyShared now shares d (key, u)).run =
      { d.run with
        states := (shares key).foldl (fun m k => Keyed.set m k (u.apply now st)) d.run.states } := by
  simp only [applyShared, hs]
  split <;> rfl

lemma state?_applyShared (hs : d.run.state? key = some st) (k : String) :
    (applyShared now shares d (key, u)).run.state? k =
      if k ∈ shares key then some (u.apply now st) else d.run.state? k := by
  rw [run_applyShared now shares u hs]
  exact Keyed.find?_foldl_set (shares key) d.run.states _ k

lemma statusAt_applyShared (hs : d.run.state? key = some st) (k : String) :
    (applyShared now shares d (key, u)).run.statusAt k =
      if k ∈ shares key then some (u.status.getD st.status) else d.run.statusAt k := by
  rw [Run.statusAt, state?_applyShared hs]
  split <;> rfl

lemma events_applyShared (hs : d.run.state? key = some st) :
    (applyShared now shares d (key, u)).events = d.events ++ (u.status.map fun t =>
      statusChanged now (applyShared now shares d (key, u)).run key st.status t
        (u.apply now st).error).toList := by
  cases hu : u.status <;> simp [applyShared, hs, hu]

def Draft.Stands (d : Draft) (id k : String) (es : List Event) (o : Option Status) : Prop :=
  d.run.id = id ∧ changesIn id k d.events = es ∧ d.run.statusAt k = o

def Level (shares : String → List String) (d : Draft) : Prop :=
  ∀ key, ∀ k ∈ shares key, d.run.statusAt k = d.run.statusAt key

section Update

variable {es : List Event}

lemma Level.update (now : Instant) (u : NodeUpdate) (hlevel : Level shares d)
    (hshares : Sharing new shares) (hs : d.run.state? key = some st) :
    Level shares (applyShared now shares d (key, u)) := by
  intro j k hk
  have hiff : k ∈ shares key ↔ j ∈ shares key := (hshares.same hk key).symm
  simp only [statusAt_applyShared hs, hiff, hlevel j k hk]

lemma Draft.Stands.spared (now : Instant) (hd : d.Stands id k es o) (hshares : Sharing new shares)
    (hlevel : Level shares d) (hs : d.run.state? key = some st)
    (h : k ∈ shares key → u.status = none) :
    (applyShared now shares d (key, u)).Stands id k es o := by
  obtain ⟨hid, hes, ho⟩ := hd
  refine ⟨?_, ?_, ?_⟩
  · rw [run_applyShared now shares u hs]
    exact hid
  · rw [events_applyShared hs, changesIn_append, hes]
    cases hu : u.status with
    | none => simp [changesIn]
    | some t =>
      have hk : key ≠ k := by
        rintro rfl
        cases (h (hshares.self key)).symm.trans hu
      rw [Option.map_some, Option.toList_some, changesIn_statusChanged,
        if_neg fun he => hk he.2, List.append_nil]
  · rw [statusAt_applyShared hs, ← ho]
    split
    · rename_i hk
      rw [h hk, hlevel key k hk, Run.statusAt_of_state? hs]
      rfl
    · rfl

lemma Draft.Stands.moved (now : Instant) (hd : d.Stands id k es o) (hlevel : Level shares d)
    (hs : d.run.state? key = some st) (hk : k ∈ shares key) (hu : u.status = some t) :
    o = some st.status ∧ ∃ e, e.tellsFrom st.status ∧ e.status = some t.name ∧
      (applyShared now shares d (key, u)).Stands id k (es ++ if key = k then [e] else [])
        (some t) := by
  obtain ⟨hid, hes, ho⟩ := hd
  have hrun : (applyShared now shares d (key, u)).run.id = id := by
    rw [run_applyShared now shares u hs]
    exact hid
  refine ⟨?_, statusChanged now (applyShared now shares d (key, u)).run key st.status t
    (u.apply now st).error, tellsFrom_statusChanged, rfl, hrun, ?_, ?_⟩
  · rw [← ho, hlevel key k hk, Run.statusAt_of_state? hs]
  · rw [events_applyShared hs, changesIn_append, hes, hu, Option.map_some, Option.toList_some,
      changesIn_statusChanged]
    simp only [hrun, true_and]
  · rw [statusAt_applyShared hs, if_pos hk, hu]
    rfl

end Update

/-! A batch -/

structure Pending (us : List (String × NodeUpdate)) (d : Draft) : Prop where
  nodup : (us.map Prod.fst).Nodup
  known : ∀ x ∈ us, ∃ st, d.run.state? x.1 = some st

lemma Pending.tail (h : Pending (x :: us) d) : Pending us (applyShared now shares d x) where
  nodup := (List.nodup_cons.mp h.nodup).2
  known y hy := by
    obtain ⟨st, hs⟩ := h.known x List.mem_cons_self
    obtain ⟨st', hs'⟩ := h.known y (List.mem_cons_of_mem _ hy)
    rw [state?_applyShared hs]
    split
    · exact ⟨_, rfl⟩
    · exact ⟨st', hs'⟩

section Batch

variable {es : List Event} (hshares : Sharing new shares)
include hshares

lemma Draft.Stands.told (now : Instant) (hd : d.Stands id k es o) (hp : Pending us d)
    (hlevel : Level shares d)
    (hown : ∀ x ∈ us, k ∈ shares x.1 → x.2.status ≠ none → x.1 = k)
    (hmove : ∀ x ∈ us, x.1 = k → ∀ t ∈ x.2.status, ∀ a ∈ o, a.canBecome t = true)
    (ht : Traced b es o) :
    ∃ es' o', (us.foldl (applyShared now shares) d).Stands id k es' o' ∧ Traced b es' o' := by
  induction us generalizing d es o with
  | nil => exact ⟨es, o, hd, ht⟩
  | cons x us ih =>
    obtain ⟨key, u⟩ := x
    obtain ⟨st, hs⟩ := hp.known _ List.mem_cons_self
    have hlevel' := hlevel.update now u hshares hs
    have hown' := fun y hy => hown y (List.mem_cons_of_mem _ hy)
    by_cases hk : k ∈ shares key ∧ u.status ≠ none
    · obtain ⟨t, hu⟩ := Option.ne_none_iff_exists'.mp hk.2
      obtain rfl := hown _ List.mem_cons_self hk.1 hk.2
      obtain ⟨rfl, e, hfrom, hto, hd'⟩ := hd.moved now hlevel hs hk.1 hu
      have hmoves := hmove _ List.mem_cons_self rfl t hu st.status rfl
      refine ih hd' hp.tail hlevel' hown' (fun y hy he => ?_) ?_
      · -- The key does not come again.
        have hnew := (List.nodup_cons.mp hp.nodup).1
        exact absurd (he ▸ List.mem_map_of_mem (f := Prod.fst) hy) hnew
      · rw [if_pos rfl]
        exact ht.snoc hfrom hto hmoves
    · have hspared : k ∈ shares key → u.status = none := fun hm => by
        by_contra hu
        exact hk ⟨hm, hu⟩
      exact ih (hd.spared now hshares hlevel hs hspared) hp.tail hlevel' hown'
        (fun y hy => hmove y (List.mem_cons_of_mem _ hy)) ht

lemma Draft.Stands.astray (now : Instant) (hd : d.Stands id k es o) (hp : Pending us d)
    (hlevel : Level shares d)
    (hmove : ∀ x ∈ us, k ∈ shares x.1 → ∀ t ∈ x.2.status, a.canBecome t = true)
    (ha : Astray a es o) :
    ∃ es' o', (us.foldl (applyShared now shares) d).Stands id k es' o' ∧ Astray a es' o' := by
  induction us generalizing d es o with
  | nil => exact ⟨es, o, hd, ha⟩
  | cons x us ih =>
    obtain ⟨key, u⟩ := x
    obtain ⟨st, hs⟩ := hp.known _ List.mem_cons_self
    have hlevel' := hlevel.update now u hshares hs
    have hmove' := fun y hy => hmove y (List.mem_cons_of_mem _ hy)
    by_cases hk : k ∈ shares key ∧ u.status ≠ none
    · obtain ⟨t, hu⟩ := Option.ne_none_iff_exists'.mp hk.2
      obtain ⟨rfl, e, hfrom, -, hd'⟩ := hd.moved now hlevel hs hk.1 hu
      refine ih hd' hp.tail hlevel' hmove' ?_
      split
      · exact ha.snoc hfrom
      · rw [List.append_nil]
        exact ha.moved (Status.ne_of_canBecome (hmove _ List.mem_cons_self hk.1 t hu))
    · have hspared : k ∈ shares key → u.status = none := fun hm => by
        by_contra hu
        exact hk ⟨hm, hu⟩
      exact ih (hd.spared now hshares hlevel hs hspared) hp.tail hlevel' hmove' ha

lemma exists_astray (now : Instant) (hp : Pending us d) (hlevel : Level shares d)
    (hclass : ∀ j ∈ shares k, d.Stands id j [] (some a))
    (hmove : ∀ x ∈ us, k ∈ shares x.1 → ∀ t ∈ x.2.status, a.canBecome t = true)
    (hx : x ∈ us) (hk : k ∈ shares x.1) (hne : x.1 ≠ k) (hu : x.2.status ≠ none) :
    ∃ j ∈ shares k, ∃ es' o',
      (us.foldl (applyShared now shares) d).Stands id j es' o' ∧ Astray a es' o' := by
  -- If the status of one key of a class is changed, the log of another key of the class is astray:
  -- that of the key `k`, or that of another one if the first change is made under the name `k`.
  have hsame : ∀ {j}, j ∈ shares k → ∀ y, j ∈ shares y ↔ k ∈ shares y :=
    fun hj y => (hshares.same hj y).symm
  induction us generalizing d with
  | nil => cases hx
  | cons y us ih =>
    obtain ⟨key, u⟩ := y
    obtain ⟨st, hs⟩ := hp.known _ List.mem_cons_self
    have hlevel' := hlevel.update now u hshares hs
    have hmove' := fun y hy => hmove y (List.mem_cons_of_mem _ hy)
    by_cases hkey : k ∈ shares key ∧ u.status ≠ none
    · obtain ⟨t, ht⟩ := Option.ne_none_iff_exists'.mp hkey.2
      obtain ⟨j, hj, hother⟩ : ∃ j ∈ shares k, key ≠ j := by
        by_cases he : key = k
        · exact ⟨x.1, hshares.symm hk, fun hx => hne (hx.symm.trans he)⟩
        · exact ⟨k, hshares.self k, he⟩
      obtain ⟨-, e, -, -, hd'⟩ := (hclass j hj).moved now hlevel hs
        ((hsame hj key).mpr hkey.1) ht
      rw [if_neg hother, List.append_nil] at hd'
      have hmoves := Status.ne_of_canBecome (hmove _ List.mem_cons_self hkey.1 t ht)
      obtain ⟨es, o, hend⟩ := hd'.astray hshares now hp.tail hlevel'
        (fun z hz hm => hmove' z hz ((hsame hj z.1).mp hm))
        (show Astray a [] (some t) from fun he => hmoves (Option.some.inj he).symm)
      exact ⟨j, hj, es, o, hend⟩
    · have hspared : ∀ j ∈ shares k, j ∈ shares key → u.status = none := fun j hj hm => by
        by_contra hu
        exact hkey ⟨(hsame hj key).mp hm, hu⟩
      have hrest : x ∈ us := by
        refine (List.mem_cons.mp hx).resolve_left ?_
        rintro rfl
        exact hkey ⟨hk, hu⟩
      exact ih hp.tail hlevel'
        (fun j hj => (hclass j hj).spared now hshares hlevel hs (hspared j hj)) hmove'
        hrest

end Batch

lemma foldl_applyShared (now : Instant) (shares : String → List String)
    (us : List (String × NodeUpdate)) (d : Draft) :
    ∃ m es, us.foldl (applyShared now shares) d = ⟨{ d.run with states := m }, d.events ++ es⟩ ∧
      ∀ e ∈ es, e.runId = some d.run.id := by
  induction us generalizing d with
  | nil => exact ⟨d.run.states, [], by simp, by simp⟩
  | cons x us ih =>
    obtain ⟨m, es, he, hown⟩ := ih (applyShared now shares d x)
    rw [List.foldl_cons, he]
    cases hs : d.run.state? x.1 with
    | none =>
      have hsame : applyShared now shares d x = d := by simp [applyShared, hs]
      rw [hsame] at hown ⊢
      exact ⟨m, es, rfl, hown⟩
    | some st =>
      have hrun := run_applyShared now shares x.2 hs
      refine ⟨m, (x.2.status.map fun t => statusChanged now (applyShared now shares d x).run x.1
        st.status t (x.2.apply now st).error).toList ++ es, ?_, ?_⟩
      · rw [events_applyShared hs, List.append_assoc, hrun]
      · intro e he
        rw [hrun] at hown
        rcases List.mem_append.mp he with he | he
        · obtain ⟨t, -, rfl⟩ := Option.map_eq_some_iff.mp (Option.mem_toList.mp he)
          rw [hrun]
          rfl
        · exact hown e he

lemma state?_foldl_ne_none (hp : Pending us d) (h : d.run.state? k ≠ none) :
    (us.foldl (applyShared now shares) d).run.state? k ≠ none := by
  induction us generalizing d with
  | nil => exact h
  | cons x us ih =>
    obtain ⟨st, hs⟩ := hp.known x List.mem_cons_self
    refine ih hp.tail ?_
    rw [state?_applyShared hs]
    split
    · simp
    · exact h

/-! A write -/

def Apart (shares : String → List String) (us : List (String × NodeUpdate)) : Prop :=
  ∀ x ∈ us, x.2.status ≠ none → ∀ k ∈ shares x.1, k = x.1

instance (shares : String → List String) (us : List (String × NodeUpdate)) :
    Decidable (Apart shares us) :=
  inferInstanceAs (Decidable (∀ x ∈ us, x.2.status ≠ none → ∀ k ∈ shares x.1, k = x.1))

def bornWith (born : String → Option Status) (new : Keyed NodeState) (key : String) :
    Option Status := (born key).or ((Keyed.find? new key).map (·.status))

structure Succeeds (id : String) (new : Keyed NodeState) (apart : Prop) (r q : Run)
    (es : List Event) : Prop where
  header : q.id = id
  revision : q.revision = r.revision + 1
  own : ∀ e ∈ es, e.runId = some id
  fresh : ∀ key ∈ Keyed.keys new, r.statusAt key = none ∧ q.statusAt key ≠ none
  old : ∀ key ∉ Keyed.keys new, Traced (r.statusAt key) (changesIn id key es) (q.statusAt key)
  told : (∀ key, Traced (bornWith r.statusAt new key) (changesIn id key es) (q.statusAt key)) ↔
    apart

lemma bornWith_of_notMem {born : String → Option Status} (h : key ∉ Keyed.keys new) :
    bornWith born new key = born key := by
  rw [bornWith, Keyed.find?_eq_none_iff.mpr h, Option.map_none, Option.or_none]

section Write

variable {instances : List (String × List NodeState)}

lemma Draft.Drawn.stands (h : d.Drawn r new) (key : String) :
    d.Stands r.id key [] (bornWith r.statusAt new key) := by
  refine ⟨by rw [h.row], changesIn_eq_nil h.silent, ?_⟩
  rw [Run.statusAt, h.state?, bornWith, Run.statusAt]
  cases r.state? key <;> rfl

lemma Draft.Drawn.level (h : d.Drawn r new) (hshares : Sharing new shares) : Level shares d := by
  intro key k hk
  by_cases hne : k = key
  · rw [hne]
  · obtain ⟨hnew, he⟩ := hshares.given hk hne
    obtain ⟨hnew', -⟩ := hshares.given (hshares.symm hk) (Ne.symm hne)
    rw [(h.stands k).2.2, (h.stands key).2.2, bornWith, bornWith, he, Run.statusAt, Run.statusAt,
      h.fresh k hnew, h.fresh key hnew']

variable (h : d.Drawn r new) (hshares : Sharing new shares) (hn : (us.map Prod.fst).Nodup)
  (hc : checkUpdates d.run us = .ok ())
include h hshares hn hc

lemma Draft.Drawn.told (now : Instant)
    (hown : ∀ x ∈ us, k ∈ shares x.1 → x.2.status ≠ none → x.1 = k) :
    Traced (bornWith r.statusAt new k)
      (changesIn r.id k (us.foldl (applyShared now shares) d).events)
      ((us.foldl (applyShared now shares) d).run.statusAt k) := by
  have hstands := h.stands k
  have happly := checkUpdates_ok hc
  have hmove : ∀ x ∈ us, x.1 = k → ∀ t ∈ x.2.status, ∀ a ∈ bornWith r.statusAt new k,
      a.canBecome t = true := by
    rintro x hx rfl t ht a ha
    obtain ⟨st, hs, hm⟩ := happly x hx
    rw [← hstands.2.2, Run.statusAt_of_state? hs] at ha
    exact Option.some.inj ha ▸ hm t ht
  have hstart : Traced (bornWith r.statusAt new k) [] (bornWith r.statusAt new k) := by
    cases bornWith r.statusAt new k with
    | none => exact .absent
    | some a => exact .present .nil
  obtain ⟨_, _, ⟨-, rfl, rfl⟩, ht⟩ := hstands.told hshares now
    ⟨hn, fun x hx => (happly x hx).imp fun _ => And.left⟩ (h.level hshares) hown hmove hstart
  exact ht

lemma Draft.Drawn.told_iff (now : Instant) :
    (∀ key, Traced (bornWith r.statusAt new key)
      (changesIn r.id key (us.foldl (applyShared now shares) d).events)
      ((us.foldl (applyShared now shares) d).run.statusAt key)) ↔ Apart shares us := by
  constructor
  · intro htold x hx hu k hk
    by_contra hne
    have hlevel := h.level hshares
    have happly := checkUpdates_ok hc
    obtain ⟨st, hs, -⟩ := happly x hx
    have hfirst : ∀ j ∈ shares k, bornWith r.statusAt new j = some st.status := by
      intro j hj
      have hj' : j ∈ shares x.1 := (hshares.same hj x.1).mp hk
      rw [← (h.stands j).2.2, hlevel x.1 j hj', Run.statusAt_of_state? hs]
    have hmove : ∀ y ∈ us, k ∈ shares y.1 → ∀ t ∈ y.2.status, st.status.canBecome t = true := by
      intro y hy hm t ht
      obtain ⟨st', hs', hm'⟩ := happly y hy
      have hstatus := hlevel y.1 k hm
      rw [hlevel x.1 k hk, Run.statusAt_of_state? hs, Run.statusAt_of_state? hs'] at hstatus
      exact Option.some.inj hstatus ▸ hm' t ht
    obtain ⟨j, hj, es, o, hstands, hastray⟩ := exists_astray hshares now
      ⟨hn, fun y hy => (happly y hy).imp fun _ => And.left⟩ hlevel
      (fun j hj => hfirst j hj ▸ h.stands j) hmove hx hk (Ne.symm hne) hu
    obtain ⟨-, rfl, rfl⟩ := hstands
    exact hastray.not_traced (hfirst j hj ▸ htold j)
  · intro hap key
    exact h.told hshares hn hc now fun x hx hk hu => (hap x hx hu key hk).symm

end Write

lemma Rewrites.succeeds {instances : List (String × List NodeState)}
    (h : Rewrites now id instances shares us s q s') (hshares : Sharing (registered instances) shares)
    (hn : (us.map Prod.fst).Nodup) :
    ∃ r es, s.run? id = some r ∧ s' = s.put q es ∧
      Succeeds id (registered instances) (Apart shares us) r q es := by
  obtain ⟨r, d, hr, hd, hc, hsave⟩ := h
  obtain ⟨rfl, rfl⟩ := Prod.mk.inj hsave
  have hid := id_of_run? hr
  have hp : Pending us d := ⟨hn, fun x hx => (checkUpdates_ok hc x hx).imp fun _ => And.left⟩
  refine ⟨r, _, hr, rfl, ?_⟩
  obtain ⟨m, es, he, hown⟩ := foldl_applyShared now shares us d
  have hrun : (us.foldl (applyShared now shares) d).run.id = id := by
    rw [he, hd.row]
    exact hid
  refine ⟨hrun, ?_, ?_, fun key hkey => ⟨?_, ?_⟩, fun key hkey => ?_, ?_⟩
  · rw [he, hd.row]
  · rw [he]
    intro e hmem
    rcases List.mem_append.mp hmem with hmem | hmem
    · exact hid ▸ hd.own e hmem
    · rw [hown e hmem, hd.row]
      exact congrArg some hid
  · rw [Run.statusAt, hd.fresh key hkey]
    rfl
  · have hnew : d.run.state? key ≠ none := by
      obtain ⟨st, hst⟩ := Keyed.exists_of_mem_keys hkey
      rw [hd.state?, hd.fresh key hkey, hst]
      simp
    exact fun hnone => state?_foldl_ne_none hp hnew (Option.map_eq_none_iff.mp hnone)
  · have hborn : bornWith r.statusAt (registered instances) key = r.statusAt key :=
      bornWith_of_notMem hkey
    rw [← hborn, ← hid]
    refine hd.told hshares hn hc now fun x hx hk _ => ?_
    by_contra hne
    exact hkey (hshares.given hk (Ne.symm hne)).1
  · rw [← hid]
    exact hd.told_iff hshares hn hc now

theorem enroll_eq_register {handed : Handover} (h : ∀ key, ∀ k ∈ handed.sharers key, k = key) :
    s.enroll now id handed us = s.register now id handed.valued us := by
  have hshared : applyShared now handed.sharers = applyUpdate now := by
    funext d x
    have hset : ∀ (v : NodeState) (m : Keyed NodeState),
        (handed.sharers x.1).foldl (fun m k => Keyed.set m k v) m = Keyed.set m x.1 v := fun v =>
      Keyed.foldl_set_eq v (handed.sharing.self x.1) (h x.1)
    simp only [applyShared, applyUpdate, hset]
  simp only [enroll, register, applyUpdates, hshared, bind_assoc, pure_bind]

end Store

end Workflow
