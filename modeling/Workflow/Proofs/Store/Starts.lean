import Workflow.Proofs.Store.Record

/-! How often the log tells that a key was started. -/

namespace Workflow

def Event.isStart (id key : String) (e : Event) : Bool :=
  e.kind == .nodeStatusChanged && e.runId == some id && e.nodeKey == some key &&
    e.status == some Status.running.name

def Write.isClaim (key : String) : Write → Bool
  | .move k u => k == key && u == .toStatus .running
  | _ => false

def startsIn (id key : String) (es : List Event) : Nat := es.countP (Event.isStart id key)

def claimsIn (key : String) (ws : List Write) : Nat := ws.countP (Write.isClaim key)

variable {now : Instant} {p : Plan} {s : Store} {r : Run} {id other key k : String} {x : Write}
  {ws xs : List Write} {w : World} {es fs : List Event}

@[simp] lemma startsIn_append :
    startsIn id key (es ++ fs) = startsIn id key es + startsIn id key fs :=
  List.countP_append

@[simp] lemma claimsIn_append : claimsIn key (ws ++ xs) = claimsIn key ws + claimsIn key xs :=
  List.countP_append

lemma claimsIn_cons (x : Write) (ws : List Write) :
    claimsIn key (x :: ws) = claimsIn key [x] + claimsIn key ws := by
  rw [← claimsIn_append, List.singleton_append]

lemma startsIn_eq_zero (h : ∀ e ∈ es, e.kind ≠ .nodeStatusChanged) : startsIn id key es = 0 := by
  rw [startsIn, List.countP_eq_zero]
  intro e he
  simp [Event.isStart, h e he]

lemma startsIn_logAll (es : List Event) :
    startsIn id key (s.logAll es).events = startsIn id key s.events + startsIn id key es := by
  obtain ⟨numbered, heq, hmap⟩ := Store.logAll_eq s es
  have hbare : ∀ fs : List Event,
      startsIn id key (fs.map fun e => { e with id := none }) = startsIn id key fs := by
    intro fs
    rw [startsIn, List.countP_map]
    rfl
  rw [heq, startsIn_append, ← hbare numbered, hmap, hbare]

lemma startsIn_changeEvents {u : NodeUpdate} {st : NodeState} {t : Status}
    (hs : r.state? k = some st) (hu : u.status = some t) :
    startsIn id key (r.changeEvents now k u) =
      if r.id = id ∧ k = key ∧ t = .running then 1 else 0 := by
  have hname : ∀ t : Status, t.name = Status.running.name ↔ t = .running := by
    intro t
    cases t <;> decide
  simp only [Run.changeEvents, hs, hu, startsIn, List.countP_singleton, Event.isStart,
    Store.statusChanged, beq_self_eq_true, Bool.true_and, Bool.and_eq_true, beq_iff_eq,
    Option.some.injEq, hname, and_assoc]

lemma startsIn_eventsOf (id key : String) (now : Instant) (hx : r.Allowed p x) :
    startsIn id key (r.eventsOf now x) = if r.id = id then claimsIn key [x] else 0 := by
  have hclaim : ∀ {k u t st}, r.state? k = some st → u.status = some t →
      (u = NodeUpdate.toStatus .running ↔ t = .running) →
      startsIn id key (r.changeEvents now k u) =
        if r.id = id then claimsIn key [.move k u] else 0 := by
    intro k u t st hs hu ht
    rw [startsIn_changeEvents hs hu]
    by_cases hid : r.id = id <;> simp [hid, claimsIn, Write.isClaim, ht]
  cases hx with
  | claim hs => exact hclaim hs rfl (by simp)
  | park x hs | complete x hs =>
    exact hclaim hs rfl (by simp [NodeUpdate.finish, NodeUpdate.toStatus])
  | fail e hs => exact hclaim hs rfl (by simp [NodeUpdate.fail, NodeUpdate.toStatus])
  | @spawn _ _ _ targets items hs hr hn hk hc hf =>
    have hfan := Run.state?_fanned_of_some targets items hs
    rw [Run.eventsOf, startsIn_append, startsIn_eq_zero, startsIn_changeEvents hfan rfl]
    · simp [claimsIn, Write.isClaim]
    · intro e he
      obtain ⟨t, _, rfl⟩ := List.mem_map.mp he
      simp [Store.instancesCreated]
  | note he =>
    rw [Run.eventsOf, startsIn_eq_zero]
    · simp [claimsIn, Write.isClaim]
    · simp [he]

lemma startsIn_record (h : w.Hosts id p r) (hx : r.Allowed p x) :
    startsIn other key (w.record id x).store.events =
      startsIn other key w.store.events + if other = id then claimsIn key [x] else 0 := by
  have hput : ∀ es q, startsIn other key (w.store.put q es).events =
      startsIn other key w.store.events + startsIn other key es := fun es q => startsIn_logAll es
  have heq := startsIn_eventsOf other key w.now hx
  rw [h.id_eq] at heq
  simp only [eq_comm (a := other), ← heq, World.record]
  cases x with
  | move k u => simpa [Store.recorded, h.row] using hput _ _
  | spawn k targets items => simpa [Store.recorded, h.row] using hput _ _
  | note e => exact startsIn_logAll [e]

lemma startsIn_recordAll (other key : String) (h : w.Hosts id p r) (hl : r.Lawful p w.now ws) :
    startsIn other key (w.recordAll id ws).store.events =
      startsIn other key w.store.events + if other = id then claimsIn key ws else 0 := by
  induction ws generalizing w r with
  | nil => simp [claimsIn]
  | cons x rest ih =>
    cases hl with
    | cons hx hrest =>
      rw [World.recordAll_cons, ih (h.record x) hrest, startsIn_record h hx, claimsIn_cons x rest]
      split <;> omega

end Workflow
