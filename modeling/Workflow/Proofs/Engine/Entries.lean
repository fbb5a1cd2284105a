import Workflow.Proofs.Engine.Course
import Workflow.Proofs.Engine.Invariant
import Workflow.Proofs.Engine.Outcomes

/-! The entries of a run, as its writes bring them about one after another, and what holds of a row
together with them. -/

namespace Workflow

open Run (Lawful)

def Store.entries (s : Store) (id : String) : List Event :=
  (s.logOf id).map fun e => { e with id := none }

namespace Run

def entriesOf (now : Instant) : Run → List Write → List Event
  | _, [] => []
  | r, x :: ws => r.eventsOf now x ++ (r.after now x).entriesOf now ws

def Owns (r : Run) (es : List Event) : Prop := ∀ e ∈ es, e.runId = some r.id ∧ e.id = none

variable {now : Instant} {r q : Run} {key : String} {u : NodeUpdate} {x : Write} {ws xs : List Write}
  {es fs : List Event}

lemma Owns.append (h : r.Owns es) (h' : r.Owns fs) : r.Owns (es ++ fs) :=
  List.forall_mem_append.mpr ⟨h, h'⟩

lemma Owns.same (h : q.Owns es) (hid : q.id = r.id) : r.Owns es := by rwa [Owns, ← hid]

lemma owns_changeEvents : r.Owns (r.changeEvents now key u) := by
  intro e he
  obtain ⟨_, _, _, _, rfl⟩ := mem_changeEvents he
  exact ⟨rfl, rfl⟩

lemma owns_eventsOf (hx : ∀ e, x ≠ .note e) : r.Owns (r.eventsOf now x) := by
  cases x with
  | move => exact owns_changeEvents
  | spawn key targets items =>
    refine Owns.append (fun e he => ?_) (owns_changeEvents.same rfl)
    obtain ⟨t, _, rfl⟩ := List.mem_map.mp he
    exact ⟨rfl, rfl⟩
  | note e => exact absurd rfl (hx e)

lemma entriesOf_append :
    r.entriesOf now (ws ++ xs) = r.entriesOf now ws ++ (r.afterAll now ws).entriesOf now xs := by
  induction ws generalizing r with
  | nil => rfl
  | cons x rest ih =>
    rw [List.cons_append, entriesOf, ih, entriesOf, List.append_assoc, afterAll_cons]

lemma entityId_after (x : Write) : (r.after now x).entityId = r.entityId := by
  have hupdate : ∀ q : Run, ∀ k u, (q.update now k u).entityId = q.entityId := by
    intro q k u
    unfold update
    cases q.state? k <;> rfl
  cases x with
  | move => exact hupdate r _ _
  | spawn => exact hupdate _ _ _
  | note => rfl

lemma Lawful.of_append {p : Plan} (h : Lawful p now r (ws ++ xs)) :
    Lawful p now (r.afterAll now ws) xs := by
  induction ws generalizing r with
  | nil => exact h
  | cons x rest ih =>
    cases h with
    | cons _ hrest => exact ih hrest

end Run

section Recorded

variable {s : Store} {es : List Event} {id other : String} {w : World} {p : Plan} {r : Run}
  {x : Write} {ws : List Write}

lemma Store.entries_logAll (h : ∀ e ∈ es, e.id = none) :
    (s.logAll es).entries id = s.entries id ++ es.filter fun e => e.runId == some id := by
  have hbare : (es.filter fun e => e.runId == some id).map (fun e => { e with id := none }) =
      es.filter fun e => e.runId == some id := by
    refine (List.map_congr_left fun e he => ?_).trans (List.map_id _)
    have hid := h e (List.mem_of_mem_filter he)
    cases e
    cases hid
    rfl
  rw [entries, logOf_logAll, List.map_append, hbare]
  rfl

lemma Store.entries_logged (rows : List Run) (h : r.Owns es) :
    ({ s with runs := rows }.logAll es).entries id =
      s.entries id ++ if id = r.id then es else [] := by
  rw [entries_logAll fun e he => (h e he).2]
  change s.entries id ++ _ = _
  congr 1
  split
  · rename_i hid
    exact List.filter_eq_self.mpr fun e he => by simp [(h e he).1, hid]
  · rename_i hid
    refine List.filter_eq_nil_iff.mpr fun e he => ?_
    simpa [(h e he).1] using Ne.symm hid

lemma Engine.entries_withCreated (w : World) (r : Run) :
    (withCreated w r).store.entries id =
      w.store.entries id ++ if id = r.id then [Store.runStarted w.now r] else [] := by
  have hown : r.Owns [Store.runStarted w.now r] := by
    intro e he
    obtain rfl := List.mem_singleton.mp he
    exact ⟨rfl, rfl⟩
  exact Store.entries_logged (w.store.runs ++ [r]) hown

variable (h : w.Hosts id p r)
include h

lemma World.entries_record (hx : r.Owns (r.eventsOf w.now x)) :
    (w.record id x).store.entries other =
      w.store.entries other ++ if other = id then r.eventsOf w.now x else [] := by
  have hid := h.id_eq
  have hput : (w.store.put (r.after w.now x) (r.eventsOf w.now x)).entries other =
      w.store.entries other ++ if other = id then r.eventsOf w.now x else [] := by
    rw [Store.put, Store.entries_logged _ hx, hid]
  cases x with
  | move | spawn => simpa [World.record, Store.recorded, h.row] using hput
  | note e =>
    rw [← hid]
    exact Store.entries_logged w.store.runs hx

lemma World.entries_recordAll (hws : r.Owns (r.entriesOf w.now ws)) :
    (w.recordAll id ws).store.entries other =
      w.store.entries other ++ if other = id then r.entriesOf w.now ws else [] := by
  induction ws generalizing w r with
  | nil => simp [Run.entriesOf]
  | cons x rest ih =>
    obtain ⟨hx, hrest⟩ := List.forall_mem_append.mp hws
    have hid : (r.after w.now x).id = r.id := (Run.sameHeader_after x).id
    rw [World.recordAll_cons, ih (h.record x) (Run.Owns.same hrest hid.symm),
      World.entries_record h hx]
    split <;> simp [Run.entriesOf, World.record]

end Recorded

namespace Engine

structure Tale (J : Plan → Run → List Event → Prop) : Prop where
  born : ∀ (id : String) (v : FlowVersion) (trigger : Trigger) (entityId : Option String)
    (now : Instant), v.plan.WellFormed →
    J v.plan (newRun id v trigger entityId now)
      [Store.runStarted now (newRun id v trigger entityId now)]
  kept : ∀ {p : Plan} {now : Instant} {r : Run} {ws : List Write} {log : List Event}, p.WellFormed →
    r.Sound p → Lawful p now r ws → Recounts p now r ws → J p r log →
    J p (r.afterAll now ws) (log ++ r.entriesOf now ws)

structure Tells (J : Plan → Run → List Event → Prop) (w : World) : Prop where
  sane : w.Sane
  row : ∀ {id r v}, w.store.run? id = some r → w.store.version? r.versionId = some v →
    J v.plan r (w.store.entries id)
  unborn : ∀ {id}, w.store.run? id = none → w.store.entries id = []

variable {p : Plan} {now : Instant} {r : Run} {n : PlanNode} {c : Callback} {ws : List Write}
  {w : World} {J : Plan → Run → List Event → Prop}

lemma owns_movementNotes : r.Owns (r.entriesOf now (movementNotes now r n c)) := by
  unfold movementNotes
  split
  · intro e he
    obtain rfl := List.mem_singleton.mp he
    exact ⟨rfl, rfl⟩
  · exact List.forall_mem_nil _

lemma Recounts.owns (h : Recounts p now r ws) : r.Owns (r.entriesOf now ws) := by
  induction h with
  | nil => exact List.forall_mem_nil _
  | @plain r x ws hx _ ih =>
    refine (Run.owns_eventsOf fun e he => ?_).append (ih.same (Run.sameHeader_after x).id)
    rw [he] at hx
    cases hx
  | @reported r key c n ws _ _ _ ih =>
    have hid : (r.update now key (Engine.reported c)).id = r.id := Run.sameHeader_update.id
    rw [Run.entriesOf, Run.after, Run.entriesOf_append, afterAll_notes movementNotes_kind]
    exact Run.owns_changeEvents.append ((owns_movementNotes.append ih).same hid)

section Kept

variable (ht : Tale J) (h : Tells J w)
include ht h

lemma Tells.recordAll {id : String} (hwf : p.WellFormed) (hh : w.Hosts id p r) (hso : r.Sound p)
    (hforms : Forms p r) (hl : Lawful p w.now r ws) (hrec : Recounts p w.now r ws) :
    Tells J (w.recordAll id ws) := by
  have hentries : ∀ other, (w.recordAll id ws).store.entries other =
      w.store.entries other ++ if other = id then r.entriesOf w.now ws else [] :=
    fun other => World.entries_recordAll hh hrec.owns
  refine ⟨h.sane.recordAll hwf hh hso hforms hl, fun {other q v} hq hv => ?_,
    fun {other} hno => ?_⟩
  · rw [World.run?_recordAll hh.row] at hq
    rw [World.version?_recordAll] at hv
    rw [hentries]
    split at hq
    · rename_i ho
      obtain rfl := Option.some.inj hq
      obtain ⟨v', hv', rfl⟩ := hh.version
      rw [(Run.sameHeader_afterAll ws).versionId, hv'] at hv
      obtain rfl := Option.some.inj hv
      rw [if_pos ho, ho]
      exact ht.kept hwf hso hl hrec (h.row hh.row hv')
    · rename_i ho
      rw [if_neg ho, List.append_nil]
      exact h.row hq hv
  · rw [World.run?_recordAll hh.row] at hno
    split at hno
    · cases hno
    · rename_i ho
      rw [hentries, if_neg ho, List.append_nil, h.unborn hno]

lemma Tells.withCreated {versionId : String} {v : FlowVersion} {trigger : Trigger}
    {entityId : Option String} {input : Option (Keyed Json)}
    (hv : w.store.version? versionId = some v)
    (hnone : w.store.run? (created w v trigger entityId input).id = none) :
    Tells J (withCreated w (created w v trigger entityId input)) := by
  refine ⟨sane_withCreated h.sane hv hnone, fun {id q v'} hq hv' => ?_, fun {id} hno => ?_⟩
  · rw [run?_withCreated] at hq
    rw [entries_withCreated]
    cases hold : w.store.run? id with
    | some q' =>
      have hid : id ≠ (created w v trigger entityId input).id := by
        rintro rfl
        rw [hold] at hnone
        cases hnone
      rw [hold, Option.some_or] at hq
      obtain rfl := Option.some.inj hq
      rw [if_neg hid, List.append_nil]
      exact h.row hold hv'
    | none =>
      rw [hold, Option.none_or] at hq
      split at hq
      · rename_i hid
        obtain rfl := Option.some.inj hq
        obtain rfl : v' = v := Option.some.inj (hv'.symm.trans (Store.version?_id hv))
        rw [if_pos hid, h.unborn hold]
        exact ht.born _ v' _ _ _ (h.sane.compiled hv)
      · cases hq
  · rw [run?_withCreated] at hno
    obtain ⟨hold, hid⟩ := Option.or_eq_none_iff.mp hno
    rw [entries_withCreated, h.unborn hold, if_neg (by simpa using hid)]
    rfl

end Kept

lemma Tale.persists (ht : Tale J) : Persists (Tells J) where
  sane h := h.sane
  advanced h hwf hh hso hforms hadv := by
    have hrow := h.recordAll ht hwf hh hso hforms hadv.lawful (hadv.recounts hwf hso hforms)
    exact ⟨sane_handOver hrow.sane, hrow.row, hrow.unborn⟩
  born trigger entityId input h hv hnone := h.withCreated ht hv hnone
  drawn h := ⟨⟨h.sane.rival, h.sane.compiled, h.sane.run, h.sane.unknown⟩, h.row, h.unborn⟩
  waited now h := ⟨⟨h.sane.rival, h.sane.compiled, h.sane.run, h.sane.unknown⟩, h.row, h.unborn⟩

lemma Fresh.tells (hw : Fresh w) (hlog : ∀ e ∈ w.store.events, e.runId = none) : Tells J w where
  sane := hw.sane
  row {id r v} hr := by
    rw [hw.run?_eq] at hr
    cases hr
  unborn {id} _ := by
    have hnone : w.store.logOf id = [] := by
      refine List.filter_eq_nil_iff.mpr fun e he => ?_
      simp [hlog e he]
    simp [Store.entries, hnone]

theorem Tale.afterOperations (ht : Tale J) (hw : Fresh w)
    (hlog : ∀ e ∈ w.store.events, e.runId = none) (ops : List (Engine × Operation)) :
    Tells J (afterOperations w ops) :=
  ht.persists.afterOperations ops (hw.tells hlog)

end Engine

end Workflow
