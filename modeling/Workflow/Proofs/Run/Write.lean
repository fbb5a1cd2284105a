import Workflow.Proofs.Run.Keys

/-! What one write makes of a run's row, and the events that it leaves. -/

namespace Workflow

inductive Write where
  | move (key : String) (u : NodeUpdate)
  | spawn (key : String) (targets : List String) (items : List Json)
  | note (e : Event)

def instanceStates (template : String) : Nat → List NodeState → Keyed NodeState
  | _, [] => []
  | i, s :: rest => (InstanceKey.text ⟨template, i⟩, s) :: instanceStates template (i + 1) rest

lemma mem_instanceStates {t key : String} {i : Nat} {states : List NodeState} {s : NodeState} :
    (key, s) ∈ instanceStates t i states ↔
      ∃ j, states[j]? = some s ∧ InstanceKey.text ⟨t, (i + j : Nat)⟩ = key := by
  induction states generalizing i with
  | nil => simp [instanceStates]
  | cons a rest ih =>
    rw [instanceStates, List.mem_cons, ih, Prod.mk.injEq]
    constructor
    · rintro (⟨rfl, rfl⟩ | ⟨j, hj, rfl⟩)
      · exact ⟨0, by simp⟩
      · exact ⟨j + 1, by simpa using hj, by rw [show i + (j + 1) = i + 1 + j by omega]⟩
    · rintro ⟨j, hj, rfl⟩
      cases j with
      | zero => exact .inl (by simpa [eq_comm] using hj)
      | succ j => exact .inr ⟨j, by simpa using hj, by rw [show i + (j + 1) = i + 1 + j by omega]⟩

lemma keys_instanceStates (t : String) (i : Nat) (states : List NodeState) :
    Keyed.keys (instanceStates t i states) =
      (List.range' i states.length).map fun (j : Nat) => InstanceKey.text ⟨t, j⟩ := by
  induction states generalizing i with
  | nil => rfl
  | cons a rest ih =>
    have h := ih (i + 1)
    simp only [Keyed.keys] at h
    simp [instanceStates, Keyed.keys, List.range'_succ, h]

def spawnedStates (targets : List String) (items : List Json) : Keyed NodeState :=
  targets.flatMap fun t => instanceStates t 0 (items.map .pending)

lemma mem_spawnedStates {targets : List String} {items : List Json} {key : String} {s : NodeState} :
    (key, s) ∈ spawnedStates targets items ↔
      ∃ t ∈ targets, ∃ (j : Nat) (x : Json), items[j]? = some x ∧ InstanceKey.text ⟨t, j⟩ = key ∧
        s = .pending x := by
  simp only [spawnedStates, List.mem_flatMap, mem_instanceStates, Nat.zero_add, List.getElem?_map,
    Option.map_eq_some_iff]
  constructor
  · rintro ⟨t, ht, j, ⟨x, hx, rfl⟩, rfl⟩
    exact ⟨t, ht, j, x, hx, rfl, rfl⟩
  · rintro ⟨t, ht, j, x, hx, rfl, rfl⟩
    exact ⟨t, ht, j, ⟨x, hx, rfl⟩, rfl⟩

lemma mem_keys_spawnedStates {targets : List String} {items : List Json} {key : String} :
    key ∈ Keyed.keys (spawnedStates targets items) ↔
      ∃ t ∈ targets, ∃ j : Nat, j < items.length ∧ InstanceKey.text ⟨t, j⟩ = key := by
  constructor
  · intro h
    obtain ⟨⟨k, s⟩, hm, rfl⟩ := List.mem_map.mp h
    obtain ⟨t, ht, j, x, hx, hk, _⟩ := mem_spawnedStates.mp hm
    exact ⟨t, ht, j, (List.getElem?_eq_some_iff.mp hx).1, hk⟩
  · rintro ⟨t, ht, j, hj, hk⟩
    exact List.mem_map.mpr ⟨(key, .pending items[j]), mem_spawnedStates.mpr
      ⟨t, ht, j, items[j], List.getElem?_eq_getElem hj, hk, rfl⟩, rfl⟩

lemma nodup_keys_spawnedStates {targets : List String} (h : targets.Nodup) (items : List Json) :
    (Keyed.keys (spawnedStates targets items)).Nodup := by
  have hk : Keyed.keys (spawnedStates targets items) =
      targets.flatMap fun t => Keyed.keys (instanceStates t 0 (items.map .pending)) := by
    simp [Keyed.keys, spawnedStates, List.map_flatMap]
  rw [hk, List.nodup_flatMap]
  constructor
  · intro t _
    rw [keys_instanceStates]
    refine List.Nodup.map ?_ List.nodup_range'
    intro a b hab
    exact Int.ofNat.inj (InstanceKey.mk.inj (InstanceKey.text_injective hab)).2
  · refine h.imp_of_mem ?_
    intro a b _ _ hab key ha hb
    simp only [keys_instanceStates, List.mem_map] at ha hb
    obtain ⟨i, _, rfl⟩ := ha
    obtain ⟨j, _, hj⟩ := hb
    simp only [InstanceKey.text_inj, InstanceKey.mk.injEq] at hj
    exact hab hj.1.symm

namespace Run

variable {now : Instant} {r : Run} {key : String} {u : NodeUpdate} {s : NodeState}
  {targets : List String} {items : List Json}

def moved (now : Instant) (key : String) (u : NodeUpdate) (s : NodeState) (r : Run) : Run :=
  { r with
    states := Keyed.set r.states key (u.apply now s)
    revision := r.revision + 1
    updatedAt := now }

def fanned (targets : List String) (items : List Json) (r : Run) : Run :=
  { r with
    states := r.states ++ spawnedStates targets items
    instances := r.instances ++ targets.map fun t => (t, indices items.length) }

def update (now : Instant) (key : String) (u : NodeUpdate) (r : Run) : Run :=
  (r.state? key).elim r fun s => r.moved now key u s

def after (now : Instant) (r : Run) : Write → Run
  | .move key u => r.update now key u
  | .spawn key targets items =>
    (r.fanned targets items).update now key (.finish .completed (.arr items))
  | .note _ => r

def changeEvents (now : Instant) (key : String) (u : NodeUpdate) (r : Run) : List Event :=
  match r.state? key, u.status with
  | some s, some target =>
    [Store.statusChanged now r key s.status target (u.apply now s).error]
  | _, _ => []

def eventsOf (now : Instant) (r : Run) : Write → List Event
  | .move key u => r.changeEvents now key u
  | .spawn key targets items =>
    (targets.map fun t => Store.instancesCreated now r t (Store.firstInstances t items.length)) ++
      (r.fanned targets items).changeEvents now key (.finish .completed (.arr items))
  | .note e => [e]

lemma changeEvents_eq {t : Status} (h : r.state? key = some s) (hu : u.status = some t) :
    r.changeEvents now key u =
      [Store.statusChanged now r key s.status t (u.apply now s).error] := by
  simp [changeEvents, h, hu]

lemma mem_changeEvents {e : Event} (he : e ∈ r.changeEvents now key u) :
    ∃ s t, r.state? key = some s ∧ u.status = some t ∧
      e = Store.statusChanged now r key s.status t (u.apply now s).error := by
  unfold changeEvents at he
  split at he
  · rename_i s t hs hu
    exact ⟨s, t, hs, hu, List.mem_singleton.mp he⟩
  · cases he

lemma update_eq (h : r.state? key = some s) : r.update now key u = r.moved now key u s := by
  simp [update, h]

@[simp] lemma state?_moved {k : String} :
    (r.moved now key u s).state? k = if key = k then some (u.apply now s) else r.state? k := by
  simp [state?, moved, Keyed.find?_set]

@[simp] lemma revision_moved : (r.moved now key u s).revision = r.revision + 1 := rfl

@[simp] lemma instances_update : (r.update now key u).instances = r.instances := by
  unfold update
  cases r.state? key <;> rfl

/-- No target has instances, and none of the new keys is taken. -/
structure Spawnable (targets : List String) (items : List Json) (r : Run) : Prop where
  nodup : targets.Nodup
  whole : ∀ t ∈ targets, r.hasInstances t = false
  fresh : ∀ t ∈ targets, ∀ j < items.length,
    InstanceKey.text ⟨t, (j : Nat)⟩ ∉ Keyed.keys r.states

lemma state?_fanned {k : String} :
    (r.fanned targets items).state? k =
      (r.state? k).or (Keyed.find? (spawnedStates targets items) k) := by
  simp [state?, fanned, Keyed.find?_append]

lemma state?_fanned_of_some (targets : List String) (items : List Json) {k : String}
    (h : r.state? k = some s) :
    (r.fanned targets items).state? k = some s := by
  rw [state?, fanned, Keyed.find?_append, show Keyed.find? r.states k = some s from h]
  rfl

lemma find?_instances_fanned {t : String} (h : r.Spawnable targets items) :
    Keyed.find? (r.fanned targets items).instances t =
      if t ∈ targets then some (indices items.length) else Keyed.find? r.instances t := by
  rw [fanned, Keyed.find?_append, Keyed.find?_map (fun t => t) fun _ => indices items.length]
  by_cases ht : t ∈ targets
  · have hnone := hasInstances_eq_false.mp (h.whole t ht)
    have hfind : targets.find? (fun b => b = t) = some t :=
      List.find?_eq_some_iff_append.mpr (by
        obtain ⟨a, b, rfl⟩ := List.append_of_mem ht
        refine ⟨by simp, a, b, rfl, ?_⟩
        intro x hx
        have : x ≠ t := fun he => (List.nodup_append.mp h.nodup).2.2 x hx t (by simp) he
        simpa using this)
    simp [hnone, hfind, ht]
  · have hfind : targets.find? (fun b => b = t) = none := by
      rw [List.find?_eq_none]
      intro x hx
      have : x ≠ t := fun he => ht (he ▸ hx)
      simpa using this
    simp [hfind, ht]

lemma keys_moved (h : r.state? key = some s) :
    Keyed.keys (r.moved now key u s).states = Keyed.keys r.states := by
  rw [moved, Keyed.keys_set, if_pos (Keyed.mem_keys_of_find? h)]

lemma hasInstances_update {t : String} :
    (r.update now key u).hasInstances t = r.hasInstances t := by
  rw [hasInstances, instances_update, hasInstances]

section Updated

variable (h : r.state? key = some s)
include h

lemma state?_update {k : String} :
    (r.update now key u).state? k = if key = k then some (u.apply now s) else r.state? k := by
  rw [update_eq h, state?_moved]

lemma mem_keys_update_iff {k : String} :
    k ∈ Keyed.keys (r.update now key u).states ↔ k ∈ Keyed.keys r.states := by
  rw [update_eq h, keys_moved h]

lemma spawnable_update_iff : (r.update now key u).Spawnable targets items ↔
    r.Spawnable targets items := by
  constructor
  · intro hsp
    exact ⟨hsp.nodup, fun t ht => hasInstances_update.symm.trans (hsp.whole t ht),
      fun t ht j hj hk => hsp.fresh t ht j hj ((mem_keys_update_iff h).mpr hk)⟩
  · intro hsp
    exact ⟨hsp.nodup, fun t ht => hasInstances_update.trans (hsp.whole t ht),
      fun t ht j hj hk => hsp.fresh t ht j hj ((mem_keys_update_iff h).mp hk)⟩

end Updated

lemma state?_update_of_ne {k : String} (hk : k ≠ key) :
    (r.update now key u).state? k = r.state? k := by
  cases hs : r.state? key with
  | none => rw [update, hs, Option.elim_none]
  | some s => rw [state?_update hs, if_neg hk.symm]

def afterAll (now : Instant) (r : Run) (ws : List Write) : Run := ws.foldl (after now) r

@[simp] lemma afterAll_nil : r.afterAll now [] = r := rfl

@[simp] lemma afterAll_cons {x : Write} {ws : List Write} :
    r.afterAll now (x :: ws) = (r.after now x).afterAll now ws := rfl

lemma afterAll_append {ws xs : List Write} :
    r.afterAll now (ws ++ xs) = (r.afterAll now ws).afterAll now xs := List.foldl_append

structure SameHeader (r q : Run) : Prop where
  id : q.id = r.id
  flowId : q.flowId = r.flowId
  versionId : q.versionId = r.versionId
  trigger : q.trigger = r.trigger

namespace SameHeader

variable {q : Run}

protected lemma refl (r : Run) : SameHeader r r := ⟨rfl, rfl, rfl, rfl⟩

protected lemma trans {q₁ q₂ : Run} (h : SameHeader r q₁) (h' : SameHeader q₁ q₂) :
    SameHeader r q₂ :=
  ⟨h'.id.trans h.id, h'.flowId.trans h.flowId, h'.versionId.trans h.versionId,
    h'.trigger.trans h.trigger⟩

end SameHeader

lemma sameHeader_update : SameHeader r (r.update now key u) := by
  unfold update
  cases r.state? key
  · exact .refl r
  · exact ⟨rfl, rfl, rfl, rfl⟩

lemma sameHeader_after (x : Write) : SameHeader r (r.after now x) := by
  cases x with
  | move key u => exact sameHeader_update
  | spawn key targets items =>
    have hfan : SameHeader r (r.fanned targets items) := ⟨rfl, rfl, rfl, rfl⟩
    exact hfan.trans sameHeader_update
  | note e => exact .refl r

lemma sameHeader_afterAll (ws : List Write) : SameHeader r (r.afterAll now ws) := by
  induction ws generalizing r with
  | nil => exact .refl r
  | cons x rest ih => exact (sameHeader_after x).trans ih

end Run

end Workflow
