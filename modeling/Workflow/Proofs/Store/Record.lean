import Workflow.Proofs.Action
import Workflow.Proofs.Run.Sound

/-! The writes of a run's row, as the store carries them out. -/

namespace Workflow

namespace Store

variable {s : Store} {r : Run} {es : List Event} {id : String}

def put (s : Store) (r : Run) (es : List Event) : Store :=
  { s with runs := s.runs.map fun (q : Run) => if q.id = r.id then r else q }.logAll es

def runIds (s : Store) : List String := s.runs.map (·.id)

def recorded (now : Instant) (id : String) (s : Store) : Write → Store
  | .note e => s.log e
  | x => (s.run? id).elim s fun r => s.put (r.after now x) (r.eventsOf now x)

lemma logAll_eq (s : Store) (es : List Event) :
    ∃ numbered, s.logAll es = { s with events := s.events ++ numbered } ∧
      numbered.map (fun e => { e with id := none }) = es.map fun e => { e with id := none } := by
  induction es generalizing s with
  | nil => exact ⟨[], by simp [logAll], rfl⟩
  | cons e rest ih =>
    obtain ⟨numbered, heq, hmap⟩ := ih (s.log e)
    refine ⟨{ e with id := some (s.events.length + 1 : Nat) } :: numbered, ?_, by simp [hmap]⟩
    simpa [logAll, log] using heq

@[simp] lemma runs_logAll : (s.logAll es).runs = s.runs := by
  obtain ⟨_, h, _⟩ := logAll_eq s es
  rw [h]

@[simp] lemma versions_logAll : (s.logAll es).versions = s.versions := by
  obtain ⟨_, h, _⟩ := logAll_eq s es
  rw [h]

@[simp] lemma flows_logAll : (s.logAll es).flows = s.flows := by
  obtain ⟨_, h, _⟩ := logAll_eq s es
  rw [h]

@[simp] lemma run?_logAll : (s.logAll es).run? id = s.run? id := by simp [run?]

lemma find?_replace (l : List Run) :
    (l.map fun q => if q.id = r.id then r else q).find? (fun q => q.id = id) =
      if id = r.id then (l.find? fun q => q.id = id).map fun _ => r
      else l.find? fun q => q.id = id := by
  induction l with
  | nil => simp
  | cons a l ih =>
    by_cases ha : a.id = r.id
    · by_cases hid : id = r.id
      · simp [ha, hid]
      · simp only [List.map_cons, ha, ↓reduceIte]
        rw [List.find?_cons_of_neg (by simpa using Ne.symm hid), ih, if_neg hid,
          if_neg hid, List.find?_cons_of_neg (by simpa [ha] using Ne.symm hid)]
    · by_cases hid : a.id = id
      · have : id ≠ r.id := fun h => ha (hid.trans h)
        simp [hid, this]
      · simp only [List.map_cons, ha, ↓reduceIte]
        rw [List.find?_cons_of_neg (by simpa using hid), ih,
          List.find?_cons_of_neg (by simpa using hid)]

lemma run?_put (s : Store) (r : Run) (es : List Event) (id : String) :
    (s.put r es).run? id = if id = r.id then (s.run? id).map fun _ => r else s.run? id := by
  rw [put, run?_logAll]
  exact find?_replace s.runs

lemma runIds_put (s : Store) (r : Run) (es : List Event) : (s.put r es).runIds = s.runIds := by
  rw [runIds, put, runs_logAll, List.map_map]
  refine List.map_congr_left fun q _ => ?_
  simp only [Function.comp_apply]
  split
  · rename_i hq
    exact hq.symm
  · rfl

lemma id_of_run? (h : s.run? id = some r) : r.id = id := by
  simpa using List.find?_some h

lemma run?_of_mem (hd : s.runIds.Nodup) (hr : r ∈ s.runs) : s.run? r.id = some r := by
  cases hq : s.run? r.id with
  | none => exact absurd (List.find?_eq_none.mp hq r hr) (by simp)
  | some q =>
    have hid := id_of_run? hq
    exact congrArg some (List.inj_on_of_nodup_map hd (List.mem_of_find?_eq_some hq) hr hid)

lemma version?_id {v : FlowVersion} (h : s.version? id = some v) : s.version? v.id = some v := by
  have hid : v.id = id := by simpa using List.find?_some h
  rwa [hid]

lemma run?_recorded (now : Instant) (x : Write) (h : s.run? id = some r) (other : String) :
    (recorded now id s x).run? other =
      if other = id then some (r.after now x) else s.run? other := by
  have hid := id_of_run? h
  have hput : ∀ es, (s.put (r.after now x) es).run? other =
      if other = id then some (r.after now x) else s.run? other := by
    intro es
    rw [run?_put, (Run.sameHeader_after x).id, hid]
    split
    · rename_i ho
      rw [ho, h]
      rfl
    · rfl
  cases x with
  | move key u => simpa [recorded, h] using hput _
  | spawn key targets items => simpa [recorded, h] using hput _
  | note e =>
    change (s.log e).run? other = _
    split
    · rename_i ho
      rw [ho]
      exact h
    · rfl

lemma runIds_recorded (now : Instant) (id : String) (s : Store) (x : Write) :
    (recorded now id s x).runIds = s.runIds := by
  cases x with
  | move | spawn => cases h : s.run? id <;> simp [recorded, h, runIds_put]
  | note => rfl

lemma shelf_recorded (now : Instant) (id : String) (s : Store) (x : Write) :
    (recorded now id s x).flows = s.flows ∧ (recorded now id s x).versions = s.versions := by
  cases x with
  | move | spawn => cases h : s.run? id <;> simp [recorded, h, put]
  | note => exact ⟨rfl, rfl⟩

end Store

namespace World

variable {w : World} {id : String} {r : Run} {x : Write} {ws xs : List Write}

def record (id : String) (w : World) (x : Write) : World :=
  { w with store := Store.recorded w.now id w.store x }

def recordAll (id : String) (w : World) (ws : List Write) : World := ws.foldl (record id) w

@[simp] lemma recordAll_nil : w.recordAll id [] = w := rfl

@[simp] lemma recordAll_cons : w.recordAll id (x :: ws) = (w.record id x).recordAll id ws := rfl

lemma recordAll_append : w.recordAll id (ws ++ xs) = (w.recordAll id ws).recordAll id xs :=
  List.foldl_append

@[simp] lemma now_recordAll : (w.recordAll id ws).now = w.now := by
  induction ws generalizing w with
  | nil => rfl
  | cons x rest ih => exact ih

@[simp] lemma sent_recordAll : (w.recordAll id ws).sent = w.sent := by
  induction ws generalizing w with
  | nil => rfl
  | cons x rest ih => exact ih

@[simp] lemma rival_recordAll : (w.recordAll id ws).rival = w.rival := by
  induction ws generalizing w with
  | nil => rfl
  | cons x rest ih => exact ih

@[simp] lemma runIds_recordAll : (w.recordAll id ws).store.runIds = w.store.runIds := by
  induction ws generalizing w with
  | nil => rfl
  | cons x rest ih => exact ih.trans (Store.runIds_recorded w.now id w.store x)

lemma run?_recordAll (h : w.store.run? id = some r) (other : String) :
    (w.recordAll id ws).store.run? other =
      if other = id then some (r.afterAll w.now ws) else w.store.run? other := by
  induction ws generalizing w r with
  | nil =>
    split
    · rename_i ho
      rw [ho]
      exact h
    · rfl
  | cons x rest ih =>
    have hx := Store.run?_recorded w.now x h
    rw [recordAll_cons, ih (w := w.record id x) ((hx id).trans (if_pos rfl))]
    split
    · rfl
    · rename_i ho
      exact (hx other).trans (if_neg ho)

lemma shelf_recordAll (id : String) (ws : List Write) :
    (w.recordAll id ws).store.flows = w.store.flows ∧
      (w.recordAll id ws).store.versions = w.store.versions ∧
      (w.recordAll id ws).issued = w.issued := by
  induction ws generalizing w with
  | nil => exact ⟨rfl, rfl, rfl⟩
  | cons x rest ih =>
    obtain ⟨hflows, hversions, hissued⟩ := ih (w := w.record id x)
    obtain ⟨hf, hv⟩ := Store.shelf_recorded w.now id w.store x
    exact ⟨hflows.trans hf, hversions.trans hv, hissued⟩

@[simp] lemma version?_recordAll (v : String) :
    (w.recordAll id ws).store.version? v = w.store.version? v := by
  rw [Store.version?, (shelf_recordAll id ws).2.1]
  rfl

/-- The world has the run, its version holds the plan, and no other process is about to write. -/
structure Hosts (w : World) (id : String) (p : Plan) (r : Run) : Prop where
  row : w.store.run? id = some r
  version : ∃ v, w.store.version? r.versionId = some v ∧ v.plan = p
  rival : w.rival = none

namespace Hosts

variable {p : Plan} (h : w.Hosts id p r)
include h

lemma id_eq : r.id = id := Store.id_of_run? h.row

lemma recordAll (ws : List Write) : (w.recordAll id ws).Hosts id p (r.afterAll w.now ws) where
  row := (run?_recordAll h.row id).trans (if_pos rfl)
  version := by
    rw [version?_recordAll, (Run.sameHeader_afterAll ws).versionId]
    exact h.version
  rival := rival_recordAll.trans h.rival

lemma record (x : Write) : (w.record id x).Hosts id p (r.after w.now x) := h.recordAll [x]

end Hosts

end World

end Workflow
