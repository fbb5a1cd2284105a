import Workflow.Proofs.Store.Starts

/-! The status of a key, as the log tells how it came about. -/

namespace Workflow

def Event.isChange (id key : String) (e : Event) : Bool :=
  e.kind == .nodeStatusChanged && e.runId == some id && e.nodeKey == some key

def changesIn (id key : String) (es : List Event) : List Event := es.filter (Event.isChange id key)

namespace Event

def tellsFrom (e : Event) (s : Status) : Prop := Keyed.find? e.payload "from" = some (.str s.name)

instance (e : Event) (s : Status) : Decidable (e.tellsFrom s) := by
  unfold tellsFrom
  infer_instance

end Event

/-- Each entry is an allowed move, and starts where the one before it ended. -/
inductive Chain : Status → List Event → Status → Prop where
  | nil {a} : Chain a [] a
  | cons {a b c e rest} (hfrom : e.tellsFrom a) (hto : e.status = some b.name)
      (hm : a.canBecome b = true) (hrest : Chain b rest c) : Chain a (e :: rest) c

/-- A key that never was has no entries; any other came from its first status by a chain. -/
inductive Traced : Option Status → List Event → Option Status → Prop where
  | absent : Traced none [] none
  | present {a es b} (h : Chain a es b) : Traced (some a) es (some b)

variable {a b c : Status} {e : Event} {es fs log : List Event} {id key k : String} {now : Instant}
  {o o' : Option Status}

lemma Status.name_injective {s t : Status} (h : s.name = t.name) : s = t := by
  cases s <;> cases t <;> first | rfl | exact absurd h (by decide)

lemma Event.tellsFrom_unique {s t : Status} (hs : e.tellsFrom s) (ht : e.tellsFrom t) : s = t := by
  have h := Option.some.inj (hs.symm.trans ht)
  exact Status.name_injective (Json.str.inj h)

lemma Status.ne_of_canBecome {s t : Status} (h : s.canBecome t = true) : s ≠ t := by
  rintro rfl
  cases s <;> cases h

lemma Status.not_canBecome_pending (s : Status) : s.canBecome .pending = false := by
  cases s <;> rfl

namespace Chain

lemma snoc (h : Chain a es b) (hfrom : e.tellsFrom b) (hto : e.status = some c.name)
    (hm : b.canBecome c = true) : Chain a (es ++ [e]) c := by
  induction h with
  | nil => exact .cons hfrom hto hm .nil
  | cons hf ht hm' _ ih => exact .cons hf ht hm' (ih hfrom hm)

lemma append (h : Chain a es b) (h' : Chain b fs c) : Chain a (es ++ fs) c := by
  induction h with
  | nil => exact h'
  | cons hfrom hto hm _ ih => exact .cons hfrom hto hm (ih h')

lemma of_append (h : Chain a (es ++ fs) c) : ∃ b, Chain a es b ∧ Chain b fs c := by
  induction es generalizing a with
  | nil => exact ⟨a, .nil, h⟩
  | cons e es ih =>
    cases h with
    | cons hfrom hto hm hrest =>
      obtain ⟨b, hes, hfs⟩ := ih hrest
      exact ⟨b, .cons hfrom hto hm hes, hfs⟩

lemma start_unique (h : Chain a es c) (h' : Chain b es c) : a = b := by
  cases h with
  | nil =>
    cases h' with
    | nil => rfl
  | cons hfrom =>
    cases h' with
    | cons hfrom' => exact Event.tellsFrom_unique hfrom hfrom'

lemma from_not_pending (h : Chain a es b) (ha : a ≠ .pending) :
    ∀ e ∈ es, ¬ e.tellsFrom .pending := by
  induction h with
  | nil => simp
  | @cons a b c e rest hfrom hto hm _ ih =>
    have hb : b ≠ .pending := by
      rintro rfl
      rw [a.not_canBecome_pending] at hm
      cases hm
    intro e' he'
    rcases List.mem_cons.mp he' with rfl | he'
    · exact fun hp => ha (Event.tellsFrom_unique hfrom hp)
    · exact ih hb e' he'

theorem leaves_pending_once (h : Chain a es b) :
    es.countP (fun e => decide (e.tellsFrom .pending)) ≤ 1 := by
  cases h with
  | nil => simp
  | @cons _ b' _ e rest hfrom hto hm hrest =>
    have hb : b' ≠ .pending := by
      rintro rfl
      rw [a.not_canBecome_pending] at hm
      cases hm
    have hnone : rest.countP (fun e => decide (e.tellsFrom .pending)) = 0 := by
      rw [List.countP_eq_zero]
      intro e' he'
      simpa using hrest.from_not_pending hb e' he'
    rw [List.countP_cons, hnone]
    split <;> omega

lemma congr (hb : es.map (fun e => { e with id := none }) = fs.map fun e => { e with id := none })
    (h : Chain a es b) : Chain a fs b := by
  induction h generalizing fs with
  | nil =>
    obtain rfl : fs = [] := by simpa using hb.symm
    exact .nil
  | @cons a b c e rest hfrom hto hm _ ih =>
    cases fs with
    | nil => simp at hb
    | cons f fs =>
      simp only [List.map_cons, List.cons.injEq] at hb
      have hp : f.payload = e.payload := (congrArg Event.payload hb.1).symm
      have hs : f.status = e.status := (congrArg Event.status hb.1).symm
      refine .cons ?_ (hs.trans hto) hm (ih hb.2)
      rw [Event.tellsFrom, hp]
      exact hfrom

end Chain

namespace Traced

lemma leaves_pending_once (h : Traced o es o') :
    es.countP (fun e => decide (e.tellsFrom .pending)) ≤ 1 := by
  cases h with
  | absent => simp
  | present h => exact h.leaves_pending_once

lemma congr (hb : es.map (fun e => { e with id := none }) = fs.map fun e => { e with id := none })
    (h : Traced o es o') : Traced o fs o' := by
  cases h with
  | absent =>
    obtain rfl : fs = [] := by simpa using hb.symm
    exact .absent
  | present h => exact .present (h.congr hb)

lemma to_some (h : Traced o es (some b)) : ∃ a, o = some a ∧ Chain a es b := by
  cases h with
  | present h => exact ⟨_, rfl, h⟩

lemma to_none (h : Traced o es none) : o = none ∧ es = [] := by
  cases h with
  | absent => exact ⟨rfl, rfl⟩

lemma none_iff (h : Traced o es o') : o = none ↔ o' = none := by
  cases h with
  | absent => simp
  | present => simp

lemma of_none (h : Traced none es o') : es = [] := by
  cases h with
  | absent => rfl

end Traced

@[simp] lemma changesIn_append :
    changesIn id key (es ++ fs) = changesIn id key es ++ changesIn id key fs :=
  List.filter_append ..

lemma changesIn_eq_nil (h : ∀ e ∈ es, e.kind ≠ .nodeStatusChanged) : changesIn id key es = [] := by
  rw [changesIn, List.filter_eq_nil_iff]
  intro e he
  simp [Event.isChange, h e he]

lemma changesIn_statusChanged {r : Run} {s t : Status} {error : Option String} :
    changesIn id key [Store.statusChanged now r k s t error] =
      if r.id = id ∧ k = key then [Store.statusChanged now r k s t error] else [] := by
  by_cases hid : r.id = id <;> by_cases hk : k = key <;>
    simp [changesIn, Event.isChange, Store.statusChanged, hid, hk]

lemma tellsFrom_statusChanged {r : Run} {s t : Status} {error : Option String} :
    (Store.statusChanged now r k s t error).tellsFrom s := by
  simp [Event.tellsFrom, Store.statusChanged, Keyed.find?]

lemma traced_logAll_iff {s : Store} : Traced o (changesIn id key (s.logAll es).events) o' ↔
    Traced o (changesIn id key (s.events ++ es)) o' := by
  obtain ⟨numbered, heq, hmap⟩ := Store.logAll_eq s es
  have hbare : ∀ fs : List Event,
      (changesIn id key fs).map (fun e => { e with id := none }) =
        changesIn id key (fs.map fun e => { e with id := none }) := by
    intro fs
    rw [changesIn, changesIn, List.filter_map]
    rfl
  have hsame : (changesIn id key (s.logAll es).events).map (fun e => { e with id := none }) =
      (changesIn id key (s.events ++ es)).map fun e => { e with id := none } := by
    rw [heq, changesIn_append, changesIn_append, List.map_append, List.map_append, hbare es,
      hbare numbered, hmap]
  exact ⟨.congr hsame, .congr hsame.symm⟩

lemma changesIn_logAll {s : Store} (h : ∀ e ∈ es, Event.isChange id key e = false) :
    changesIn id key (s.logAll es).events = changesIn id key s.events := by
  induction es generalizing s with
  | nil => rfl
  | cons e rest ih =>
    refine (ih (s := s.log e) fun e he => h e (List.mem_cons_of_mem _ he)).trans ?_
    have he : Event.isChange id key { e with id := some (s.events.length + 1 : Nat) } = false :=
      h e List.mem_cons_self
    rw [changesIn, Store.log, List.filter_append, List.filter_singleton, he, cond_false,
      List.append_nil]
    rfl

namespace Run

variable {born born' : String → Option Status} {r q : Run} {s s' : NodeState}
  {states : Keyed NodeState}

def statusAt (r : Run) (key : String) : Option Status := (r.state? key).map (·.status)

lemma statusAt_of_state? (h : r.state? key = some s) : r.statusAt key = some s.status := by
  simp [statusAt, h]

def ToldBy (born : String → Option Status) (log : List Event) (r : Run) : Prop :=
  ∀ key, Traced (born key) (changesIn r.id key log) (r.statusAt key)

namespace ToldBy

variable (h : r.ToldBy born log)
include h

lemma same (hid : q.id = r.id) (hq : ∀ k, q.statusAt k = r.statusAt k) : q.ToldBy born log := by
  intro k
  rw [hid, hq]
  exact h k

lemma logAll {s : Store} (hs : s.events ++ es = log) : r.ToldBy born (s.logAll es).events :=
  fun k => traced_logAll_iff.mpr (hs ▸ h k)

lemma silent (hes : ∀ k, changesIn r.id k es = []) : r.ToldBy born (log ++ es) := by
  intro k
  rw [changesIn_append, hes, List.append_nil]
  exact h k

lemma change (hid : q.id = r.id) (hs : r.state? key = some s) (hm : s.status.canBecome c = true)
    (hq : ∀ k, q.statusAt k = if key = k then some c else r.statusAt k)
    {teller : Run} (ht : teller.id = r.id) (error : Option String) :
    q.ToldBy born (log ++ [Store.statusChanged now teller key s.status c error]) := by
  intro k
  rw [changesIn_append, changesIn_statusChanged, hq, hid, ht]
  have hk := h k
  by_cases he : key = k
  · subst he
    rw [statusAt_of_state? hs] at hk
    obtain ⟨a, ha, hc⟩ := hk.to_some
    rw [if_pos ⟨rfl, rfl⟩, if_pos rfl, ha]
    exact .present (hc.snoc tellsFrom_statusChanged rfl hm)
  · rw [if_neg fun hne => he hne.2, if_neg he, List.append_nil]
    exact hk

lemma add (hid : q.id = r.id) {new : String → Option Status}
    (hq : ∀ k, q.statusAt k = (r.statusAt k).or (new k))
    (hb : ∀ k, born' k = (born k).or (new k)) : q.ToldBy born' log := by
  intro k
  have hk := h k
  rw [hid, hq, hb]
  cases hs : r.statusAt k with
  | none =>
    rw [hs] at hk
    obtain ⟨hnone, hes⟩ := hk.to_none
    rw [hnone, hes, Option.none_or]
    cases new k with
    | none => exact .absent
    | some a => exact .present .nil
  | some s =>
    rw [hs] at hk
    obtain ⟨a, ha, hc⟩ := hk.to_some
    rw [ha, Option.some_or, Option.some_or]
    exact .present hc

end ToldBy

def Narrated (log : List Event) (r : Run) : Prop :=
  r.ToldBy (fun key => (r.statusAt key).map fun _ => .pending) log

lemma Narrated.chain (h : r.Narrated log) (hs : r.state? key = some s) :
    Chain .pending (changesIn r.id key log) s.status := by
  have hk := h key
  simp only [statusAt_of_state? hs, Option.map_some] at hk
  cases hk with
  | present hc => exact hc

variable {u : NodeUpdate} {x : Write} {p : Plan}

lemma statusAt_update (now : Instant) (hs : r.state? key = some s) (hu : u.status = some c)
    (k : String) :
    (r.update now key u).statusAt k = if key = k then some c else r.statusAt k := by
  rw [update_eq hs, statusAt, state?_moved]
  split
  · simp [NodeUpdate.apply, hu]
  · rfl

lemma Narrated.update (h : r.Narrated log) (hs : r.state? key = some s) (hu : u.status = some c)
    (hm : s.status.canBecome c = true) :
    (r.update now key u).Narrated (log ++ r.changeEvents now key u) := by
  have hstatus := statusAt_update now hs hu
  have hborn : (fun k => ((r.update now key u).statusAt k).map fun _ => Status.pending) =
      fun k => (r.statusAt k).map fun _ => .pending := by
    funext k
    rw [hstatus]
    split
    · rename_i hk
      rw [← hk, statusAt_of_state? hs]
      rfl
    · rfl
  rw [Narrated, hborn, changeEvents, hs, hu]
  exact ToldBy.change h sameHeader_update.id hs hm hstatus rfl _

lemma statusAt_fanned (targets : List String) (items : List Json) (k : String) :
    (r.fanned targets items).statusAt k =
      (r.statusAt k).or ((Keyed.find? (spawnedStates targets items) k).map (·.status)) := by
  rw [statusAt, state?_fanned, statusAt]
  cases r.state? k <;> rfl

lemma Narrated.fanned (h : r.Narrated log) (targets : List String) (items : List Json) :
    (r.fanned targets items).Narrated log := by
  refine ToldBy.add h rfl (statusAt_fanned targets items) fun k => ?_
  rw [statusAt_fanned]
  cases hs : r.statusAt k with
  | some a => rfl
  | none =>
    cases hf : Keyed.find? (spawnedStates targets items) k with
    | none => rfl
    | some st =>
      obtain ⟨_, _, _, _, _, _, rfl⟩ := mem_spawnedStates.mp (Keyed.mem_of_find? hf)
      rfl

lemma Narrated.after (h : r.Narrated log) (hx : r.Allowed p x) :
    (r.after now x).Narrated (log ++ r.eventsOf now x) := by
  cases hx with
  | claim hs hm => exact h.update hs rfl hm
  | park _ hs hr | complete _ hs hr | fail _ hs hr => exact h.update hs rfl (by rw [hr]; rfl)
  | @spawn key s n targets items hs hr =>
    have hsilent : ∀ k, changesIn r.id k (targets.map fun t =>
        Store.instancesCreated now r t (Store.firstInstances t items.length)) = [] := by
      intro k
      apply changesIn_eq_nil
      simp [Store.instancesCreated]
    have hfan := Narrated.fanned (ToldBy.silent h hsilent) targets items
    rw [Run.eventsOf, ← List.append_assoc]
    exact hfan.update (state?_fanned_of_some targets items hs) rfl (by rw [hr]; rfl)
  | note he =>
    refine ToldBy.silent h fun k => changesIn_eq_nil ?_
    simp [Run.eventsOf, he]

end Run

lemma narrated_record {w : World} {p : Plan} {r : Run} {x : Write} (h : w.Hosts id p r)
    (hx : r.Allowed p x) (hn : r.Narrated w.store.events) :
    (r.after w.now x).Narrated (w.record id x).store.events := by
  have hput : (r.after w.now x).Narrated
      (w.store.put (r.after w.now x) (r.eventsOf w.now x)).events :=
    Run.ToldBy.logAll (s := { w.store with runs := _ }) (hn.after hx) rfl
  cases x with
  | move | spawn => simpa [World.record, Store.recorded, h.row] using hput
  | note e => exact Run.ToldBy.logAll (hn.after hx) rfl

lemma narrated_recordAll {w : World} {p : Plan} {r : Run} {ws : List Write} (h : w.Hosts id p r)
    (hl : r.Lawful p w.now ws) (hn : r.Narrated w.store.events) :
    (r.afterAll w.now ws).Narrated (w.recordAll id ws).store.events := by
  induction ws generalizing w r with
  | nil => exact hn
  | cons x rest ih =>
    cases hl with
    | cons hx hrest => exact ih (h.record x) hrest (narrated_record h hx hn)

end Workflow
