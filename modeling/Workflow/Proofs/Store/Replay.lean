import Workflow.Proofs.Engine.Ready
import Workflow.Proofs.Store.Trace

/-! The statuses and the instances of a run, read off its log from the row that it was created
with. -/

namespace Workflow

namespace Event

def Begins (key : String) (e : Event) : Prop :=
  e.kind = .nodeStatusChanged ∧ e.nodeKey = some key ∧ e.tellsFrom .pending ∧
    e.status = some Status.running.name

instance (key : String) (e : Event) : Decidable (e.Begins key) :=
  inferInstanceAs (Decidable (_ ∧ _ ∧ _ ∧ _))

def instancesTold (e : Event) : List Json :=
  match Keyed.find? e.payload "instances" with
  | some (.arr keys) => keys
  | _ => []

end Event

namespace Run

def heed (r : Run) (e : Event) : Run :=
  match e.kind, e.nodeKey with
  | .nodeStatusChanged, some key =>
    (e.status.bind Status.ofName?).elim r fun st => r.update e.timestamp key (.toStatus st)
  | .instancesCreated, some t => r.fanned [t] (e.instancesTold.map fun _ => .null)
  | _, _ => r

def replay (r : Run) (log : List Event) : Run := log.foldl heed r

structure Mirrors (q r : Run) : Prop where
  instances : q.instances = r.instances
  status : ∀ k, q.statusAt k = r.statusAt k

variable {now now' : Instant} {p : Plan} {q r : Run} {key t n s : String} {st : Status}
  {v : NodeState} {u : NodeUpdate} {targets : List String} {items xs : List Json} {x : Write}
  {log es fs : List Event} {e : Event}

lemma has_iff_statusAt : r.Has key st ↔ r.statusAt key = some st := by
  simp [Has, statusAt]

@[simp] lemma replay_append : r.replay (es ++ fs) = (r.replay es).replay fs := List.foldl_append

lemma replay_congr
    (h : es.map (fun e => { e with id := none }) = fs.map fun e => { e with id := none }) :
    r.replay es = r.replay fs := by
  have hbare : ∀ l : List Event, r.replay (l.map fun e => { e with id := none }) = r.replay l := by
    intro l
    rw [replay, List.foldl_map]
    rfl
  rw [← hbare es, h, hbare fs]

lemma spawned_status_congr (hlen : xs.length = items.length) :
    (Keyed.find? (spawnedStates targets xs) key).map (·.status) =
      (Keyed.find? (spawnedStates targets items) key).map (·.status) := by
  have hmem : key ∈ Keyed.keys (spawnedStates targets xs) ↔
      key ∈ Keyed.keys (spawnedStates targets items) := by
    rw [mem_keys_spawnedStates, mem_keys_spawnedStates, hlen]
  by_cases hk : key ∈ Keyed.keys (spawnedStates targets xs)
  · obtain ⟨a, ha⟩ := Keyed.exists_of_mem_keys hk
    obtain ⟨b, hb⟩ := Keyed.exists_of_mem_keys (hmem.mp hk)
    obtain ⟨_, _, _, _, _, _, rfl⟩ := mem_spawnedStates.mp (Keyed.mem_of_find? ha)
    obtain ⟨_, _, _, _, _, _, rfl⟩ := mem_spawnedStates.mp (Keyed.mem_of_find? hb)
    rw [ha, hb]
    rfl
  · rw [Keyed.find?_eq_none_iff.mpr hk, Keyed.find?_eq_none_iff.mpr (mt hmem.mpr hk)]

namespace Mirrors

protected lemma refl : Mirrors r r := ⟨rfl, fun _ => rfl⟩

variable (h : q.Mirrors r)
include h

lemma has : q.Has key st ↔ r.Has key st := by
  rw [has_iff_statusAt, has_iff_statusAt, h.status]

lemma settled : q.Settled key ↔ r.Settled key := by
  rw [Settled, Settled, h.has, h.has]

lemma hasInstances : q.hasInstances t = r.hasInstances t := by
  rw [Run.hasInstances, Run.hasInstances, h.instances]

lemma instanceTexts : Engine.instanceTexts q t = Engine.instanceTexts r t := by
  rw [Engine.instanceTexts, Engine.instanceTexts, instanceKeys, instanceKeys, h.instances]

lemma template : q.template key = r.template key := by
  rw [Run.template, Run.template, instance?, instance?, h.instances]

lemma done : q.Done p n s ↔ r.Done p n s := by
  simp only [Done, h.hasInstances, h.instanceTexts, h.settled, h.has]

lemma ready : q.Ready p n ↔ r.Ready p n := by
  simp only [Ready, h.done]

lemma update (hs : r.state? key = some v) (hu : u.status = some st) :
    (q.update now' key (.toStatus st)).Mirrors (r.update now key u) where
  instances := by simpa using h.instances
  status k := by
    have hq : q.statusAt key = some v.status := (h.status key).trans (statusAt_of_state? hs)
    obtain ⟨_, hqs, _⟩ := Option.map_eq_some_iff.mp hq
    rw [statusAt_update now' hqs rfl, statusAt_update now hs hu, h.status]

lemma fanned (hlen : xs.length = items.length) :
    (q.fanned targets xs).Mirrors (r.fanned targets items) where
  instances := by simp only [Run.fanned, h.instances, hlen]
  status k := by rw [statusAt_fanned, statusAt_fanned, h.status, spawned_status_congr hlen]

end Mirrors

lemma heed_statusChanged {a : Status} {error : Option String} :
    q.heed (Store.statusChanged now r key a st error) = q.update now key (.toStatus st) := by
  have hname : Status.ofName? st.name = some st := by cases st <;> decide
  simp [heed, Store.statusChanged, hname]

lemma heed_instancesCreated {keys : List String} :
    q.heed (Store.instancesCreated now r t keys) = q.fanned [t] (keys.map fun _ => .null) := by
  simp [heed, Store.instancesCreated, Event.instancesTold, Keyed.find?, Json.ofStrings,
    Function.comp_def]

lemma heed_other (hs : e.kind ≠ .nodeStatusChanged) (hi : e.kind ≠ .instancesCreated) :
    q.heed e = q := by
  unfold heed
  split
  · contradiction
  · contradiction
  · rfl

lemma fanned_cons : r.fanned (t :: targets) items = (r.fanned [t] items).fanned targets items := by
  simp [Run.fanned, spawnedStates]

lemma Mirrors.replay_fanned {teller : Run} (h : q.Mirrors r) :
    (q.replay (targets.map fun t =>
      Store.instancesCreated now teller t (Store.firstInstances t items.length))).Mirrors
      (r.fanned targets items) := by
  induction targets generalizing q r with
  | nil =>
    have hnil : r.fanned [] items = r := by simp [Run.fanned, spawnedStates]
    rw [hnil]
    exact h
  | cons t rest ih =>
    have hfirst : (q.heed (Store.instancesCreated now teller t
        (Store.firstInstances t items.length))).Mirrors (r.fanned [t] items) := by
      rw [heed_instancesCreated]
      exact h.fanned (by simp [Store.firstInstances])
    rw [fanned_cons]
    exact ih hfirst

theorem Mirrors.after (h : q.Mirrors r) (hx : r.Allowed p x) :
    (q.replay (r.eventsOf now x)).Mirrors (r.after now x) := by
  have hmove : ∀ {q' r' : Run} {k : String} {v : NodeState} {u : NodeUpdate} {st : Status},
      q'.Mirrors r' → r'.state? k = some v → u.status = some st →
      (q'.replay (r'.changeEvents now k u)).Mirrors (r'.update now k u) := by
    intro q' r' k v u st h' hs hu
    simp only [changeEvents, hs, hu, replay, List.foldl_cons, List.foldl_nil, heed_statusChanged]
    exact h'.update hs hu
  cases hx with
  | claim hs | park _ hs | complete _ hs | fail _ hs => exact hmove h hs rfl
  | spawn items hs =>
    -- The instances are told of before the splitter's own end.
    rw [eventsOf, replay_append]
    exact hmove h.replay_fanned (state?_fanned_of_some _ _ hs) rfl
  | note he =>
    change (q.heed _).Mirrors r
    rwa [heed_other (by simp [he]) (by simp [he])]

end Run

end Workflow
