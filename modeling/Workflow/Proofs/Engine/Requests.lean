import Workflow.Proofs.Engine.Announce
import Workflow.Proofs.Engine.Life
import Workflow.Proofs.Store.Starts

/-! Requests and starts: a step that succeeds sends one request for each start of a worker's key,
and one that fails sends none. -/

namespace Workflow

def requestsFor (id key : String) (qs : List Request) : Nat :=
  qs.countP fun q => q.runId == id && q.nodeKey == key

namespace Plan

def isWorker (p : Plan) (n : String) : Bool := (p.node? n).any fun n => n.kind == .worker

end Plan

namespace World

def isWorkerKey (w : World) (id key : String) : Bool :=
  (w.store.run? id).any fun r =>
    (w.store.version? r.versionId).any fun v => v.plan.isWorker (r.template key)

def workerStarts (w : World) (id key : String) : Nat :=
  if w.isWorkerKey id key then startsIn id key w.store.events else 0

def requests (w : World) (id key : String) : Nat := requestsFor id key (w.sent.map (·.request))

def Matched (w : World) : Prop := ∀ id key, w.requests id key = w.workerStarts id key

end World

namespace Engine

open Run (Lawful)

def Forms (p : Plan) (r : Run) : Prop :=
  ∀ key, r.Has key .waitingForUser → ∃ n, p.node? (r.template key) = some n ∧ n.kind = .ux

structure Matches (p : Plan) (r : Run) (ws : List Write) (qs : List Request) : Prop where
  count : ∀ key, requestsFor r.id key qs =
    if p.isWorker (r.template key) then claimsIn key ws else 0
  known : ∀ {key}, 0 < claimsIn key ws → key ∈ Keyed.keys r.states
  own : ∀ q ∈ qs, q.runId = r.id

variable {p : Plan} {now : Instant} {r r' : Run} {n : PlanNode} {key id : String} {input : Json}
  {source : Status} {ws xs : List Write} {o : Outcome} {qs qs' : List Request} {m : Message}

@[simp] lemma requestsFor_append :
    requestsFor id key (qs ++ qs') = requestsFor id key qs + requestsFor id key qs' :=
  List.countP_append

namespace Matches

lemma nil : Matches p r [] [] := ⟨by simp [requestsFor, claimsIn], by simp [claimsIn], by simp⟩

lemma unsent (hzero : ∀ k, p.isWorker (r.template k) = true → claimsIn k ws = 0)
    (hknown : ∀ {k}, 0 < claimsIn k ws → k ∈ Keyed.keys r.states) : Matches p r ws [] where
  count k := by
    split
    · rename_i hk
      rw [hzero k hk]
      rfl
    · rfl
  known := hknown
  own := by simp

lemma later (h : Matches p r ws qs) (hid : r'.id = r.id)
    (hstable : ∀ {key}, key ∈ Keyed.keys r.states →
      key ∈ Keyed.keys r'.states ∧ r'.template key = r.template key) : Matches p r' ws qs where
  count key := by
    rw [hid, h.count]
    by_cases hpos : 0 < claimsIn key ws
    · rw [(hstable (h.known hpos)).2]
    · simp [Nat.eq_zero_of_not_pos hpos]
  known hpos := (hstable (h.known hpos)).1
  own := hid ▸ h.own

lemma append (h : Matches p r ws qs) (h' : Matches p r xs qs') :
    Matches p r (ws ++ xs) (qs ++ qs') where
  count key := by
    rw [requestsFor_append, claimsIn_append, h.count, h'.count]
    split <;> rfl
  known {key} hpos := by
    rw [claimsIn_append] at hpos
    by_cases hws : 0 < claimsIn key ws
    · exact h.known hws
    · exact h'.known (by omega)
  own q hq := by
    rcases List.mem_append.mp hq with hq | hq
    · exact h.own q hq
    · exact h'.own q hq

end Matches

lemma Announces.matches {out : List Message} (ha : Announces p r r' out) (hid : r'.id = r.id)
    (h : Matches p r ws qs) : Matches p r' ws qs := h.later hid ha.stable

namespace Worked

lemma claims (h : Worked p r n key input ws o) (k : String) : claimsIn k ws = 0 := by
  cases h <;>
    simp [claimsIn, Write.isClaim, NodeUpdate.finish, NodeUpdate.fail, NodeUpdate.toStatus]

lemma requests (h : Worked p r n key input ws o) :
    n.kind = .worker ∧ (∃ q, o.requests = [q] ∧ q.runId = r.id ∧ q.nodeKey = key) ∨
      n.kind ≠ .worker ∧ o.requests = [] := by
  cases h with
  | sent hk hr hq => exact .inl ⟨hk, _, rfl, hr, hq⟩
  | parked hk | unsplit hk | whole hk | rejected hk | split hk | uncollected hk | collected hk =>
    exact .inr ⟨by simp [hk], rfl⟩

end Worked

lemma Started.matches (h : Started p now r n key input source ws o)
    (hn : p.node? (r.template key) = some n) : Matches p r ws o.requests := by
  cases h with
  | skipped => exact .nil
  | @worked ws o hs hw =>
    have hclaims : ∀ k, claimsIn k (.move key (.toStatus .running) :: ws) =
        if key = k then 1 else 0 := by
      intro k
      rw [claimsIn_cons _ ws, hw.claims]
      simp [claimsIn, Write.isClaim]
    have hworker : p.isWorker (r.template key) = true ↔ n.kind = .worker := by
      simp [Plan.isWorker, hn]
    have hmem : key ∈ Keyed.keys r.states := by
      obtain ⟨s, hs, _⟩ := hs
      exact Run.mem_keys_of_state? hs
    refine ⟨fun k => ?_, fun {k} hpos => ?_, ?_⟩
    · rw [hclaims]
      rcases hw.requests with ⟨hk, q, hq, hrun, hkey⟩ | ⟨hk, hq⟩
      · rw [Run.sameHeader_update.id] at hrun
        rw [hq]
        by_cases he : key = k
        · subst he
          simp [requestsFor, hrun, hkey, hworker.mpr hk]
        · simp [requestsFor, hrun, hkey, he]
      · rw [hq]
        by_cases he : key = k
        · subst he
          simp [requestsFor, hworker, hk]
        · simp [requestsFor, he]
    · rw [hclaims] at hpos
      split at hpos
      · rename_i he
        exact he ▸ hmem
      · omega
    · intro q hq
      rcases hw.requests with ⟨_, q', hq', hrun, _⟩ | ⟨_, hq'⟩
      · rw [hq', List.mem_singleton] at hq
        rw [hq, hrun, Run.sameHeader_update.id]
      · rw [hq'] at hq
        cases hq

lemma claims_reported (key : String) (c : Callback) {notes : List Write}
    (hnotes : ∀ x ∈ notes, ∃ e : Event, x = .note e ∧ e.kind = .entityMoved) (k : String) :
    claimsIn k (.move key (reported c) :: notes) = 0 := by
  rw [claimsIn, List.countP_eq_zero]
  rintro x hx
  rcases List.mem_cons.mp hx with rfl | hx
  · unfold reported
    cases c.result <;>
      simp [Write.isClaim, NodeUpdate.finish, NodeUpdate.fail, NodeUpdate.toStatus]
  · obtain ⟨e, rfl, _⟩ := hnotes x hx
    simp [Write.isClaim]

section Fired

variable (hwf : p.WellFormed) (hso : r.Sound p)
include hwf hso

lemma FiredAll.matches {snap : Run} {mapping : Mapping} {l : List String} {t : String}
    (h : FiredAll p now snap n mapping r l ws o) (hn : p.node? t = some n)
    (hl : ∀ k ∈ l, k ∈ Keyed.keys r.states ∧ r.template k = t) :
    Matches p (r.afterAll now ws) ws o.requests := by
  induction h with
  | nil => exact .nil
  | passed _ _ ih => exact ih hso (List.forall_mem_cons.mp hl).2
  | @fired r key rest s input ws ws' o o' hs hp hi hw h ih =>
    obtain ⟨⟨hmem, ht⟩, hrest⟩ := List.forall_mem_cons.mp hl
    have hn' := ht ▸ hn
    have hl : Run.Lawful p now r ws := hw.lawful hn' rfl
    have hso' := hso.afterAll hwf.child_mem hl
    have hrest' := hso.forall_afterAll hwf.child_mem hl hrest
    have hall := (hw.announces hwf hso hn').trans (h.announces hwf hso' hn hrest')
    rw [Run.afterAll_append]
    exact (hall.matches ((Run.sameHeader_afterAll ws').id.trans (Run.sameHeader_afterAll ws).id)
      (hw.matches hn')).append (ih hso' hrest')

lemma Handled.matches (hforms : Forms p r) (h : Handled p now r m ws o) :
    Matches p (r.afterAll now ws) ws o.requests := by
  have ha := h.announces hwf hso
  have hid : (r.afterAll now ws).id = r.id := (Run.sameHeader_afterAll ws).id
  cases h with
  | walked | strayed | missing | hollow | ignored | reconciled => exact .nil
  | instances hn hi hne hm hf =>
    exact hf.matches hwf hso hn fun k hk => hso.known_instanceText hk
  | whole hn hi hin hs =>
    refine ha.matches hid (hs.matches ?_)
    rwa [hso.template_node (Plan.mem_nodeIds_iff.mpr ⟨_, hn⟩)]
  | @reported key c notes hs hnotes =>
    have hzero := claims_reported key c hnotes
    exact .unsent (fun k _ => hzero k) fun hpos => by simp [hzero] at hpos
  -- Only forms wait for a person, and so the key that is claimed is no worker's.
  | @resumed key x hs =>
    obtain ⟨n, hn, hk⟩ := hforms key hs
    have hclaims : ∀ k, 0 < claimsIn k
        [.move key (.toStatus .running), .move key (.finish .completed x)] → k = key := by
      intro k hpos
      by_contra hne
      simp [claimsIn, Write.isClaim, Ne.symm hne, NodeUpdate.finish, NodeUpdate.toStatus] at hpos
    have hmem : key ∈ Keyed.keys r.states := by
      obtain ⟨s, hs, _⟩ := hs
      exact Run.mem_keys_of_state? hs
    refine ha.matches hid (.unsent (fun k hworker => ?_) fun hpos => hclaims _ hpos ▸ hmem)
    by_contra hne
    obtain rfl := hclaims k (Nat.pos_of_ne_zero hne)
    simp [Plan.isWorker, hn, hk] at hworker
  | retried hs hst hn hin hw => exact ha.matches hid (hw.matches hn)

end Fired

lemma forms_after (hwf : p.WellFormed) (hso : r.Sound p) (hforms : Forms p r) {x : Write}
    (hx : r.Allowed p x) : Forms p (r.after now x) := by
  have hstable : ∀ {k}, k ∈ Keyed.keys r.states → (r.after now x).template k = r.template k :=
    fun hk => hso.template_after hwf.child_mem hx hk
  have hupdate : ∀ {k u t s}, r.state? k = some s → u.status = some t →
      (t = .waitingForUser → ∃ n, p.node? (r.template k) = some n ∧ n.kind = .ux) →
      Forms p (r.update now k u) := by
    intro k u t s hs hu ht key hw
    rw [has_update hs hu] at hw
    rw [Run.Sound.template_update]
    split at hw
    · rename_i he
      exact he ▸ ht hw
    · exact hforms key hw
  cases hx with
  | claim hs => exact hupdate hs rfl (by simp)
  | park x hs hr hn hk => exact hupdate hs rfl fun _ => ⟨_, hn, hk⟩
  | complete x hs => exact hupdate hs rfl (by simp)
  | fail e hs => exact hupdate hs rfl (by simp)
  | note => exact hforms
  | @spawn _ _ _ targets items hs hr hn hk hc hf =>
    intro key hw
    have hfan := Run.state?_fanned_of_some targets items hs
    have hw' : r.Has key .waitingForUser := by
      change (Run.update now _ _ _).Has key _ at hw
      rw [has_update hfan rfl] at hw
      split at hw
      · cases hw
      · rcases has_fanned.mp hw with hw | ⟨_, _, hw⟩
        · exact hw
        · cases hw
    obtain ⟨s', hs', _⟩ := id hw'
    rw [hstable (Run.mem_keys_of_state? hs')]
    exact hforms key hw'

lemma forms_afterAll (hwf : p.WellFormed) (hso : r.Sound p) (hforms : Forms p r)
    (hl : Lawful p now r ws) : Forms p (r.afterAll now ws) := by
  induction hl with
  | nil => exact hforms
  | cons hx _ ih => exact ih (hso.after hwf.child_mem hx) (forms_after hwf hso hforms hx)

lemma Drained.matches {queue : List Message} (hwf : p.WellFormed) (hso : r.Sound p)
    (hforms : Forms p r) (h : Drained p now r queue ws qs) :
    Matches p (r.afterAll now ws) ws qs := by
  induction h with
  | done => exact .nil
  | @next r m rest ws o xs qs hm hl hd ih =>
    have hso' := hso.afterAll hwf.child_mem hl
    have hstable := fun {k} (hk : k ∈ Keyed.keys (r.afterAll now ws).states) =>
      And.intro (Run.Sound.mem_keys_afterAll hd.lawful hk)
        (hso'.template_afterAll hwf.child_mem hd.lawful hk)
    rw [Run.afterAll_append]
    exact ((hm.matches hwf hso hforms).later (Run.sameHeader_afterAll xs).id hstable).append
      (ih hso' (forms_afterAll hwf hso hforms hl))

end Engine

end Workflow
