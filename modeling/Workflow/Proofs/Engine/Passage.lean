import Workflow.Proofs.Engine.Gated
import Workflow.Proofs.Engine.Reconcile

/-! The rows that a run passes through from its first one on, and what holds of all of them. -/

namespace Workflow.Engine

open Run (Lawful)
open Store (holdsRevision)

inductive Passage (p : Plan) (r : Run) : Run → Prop where
  | refl : Passage p r r
  | tail {now : Instant} {q : Run} {queue : List Message} {ws : List Write} (h : Passage p r q)
      (hq : ∀ row, Poised p row queue) (hadv : Advanced p now q queue ws) :
      Passage p r (q.afterAll now ws)

variable {p : Plan} {now : Instant} {r r' : Run} {k : String} {x : Write} {queue : List Message}
  {ws : List Write} {J : Run → Prop}

structure Lasts (p : Plan) (J : Run → Prop) : Prop where
  after : ∀ {now : Instant} {r : Run} {x : Write}, r.Sound p → r.Allowed p x → J r →
    J (r.after now x)

structure Endures (p : Plan) (J : Run → Prop) : Prop where
  handled : ∀ {now : Instant} {r : Run} {m : Message} {rest : List Message} {ws : List Write}
    {o : Outcome}, r.Sound p → holdsRevision r.revision = true → Fit p r →
    Poised p r (m :: rest) → Handled p now r m ws o → Lawful p now r ws → J r →
    J (r.afterAll now ws)
  faulted : ∀ {now : Instant} {r : Run} {m : Message} {rest : List Message} {ws : List Write},
    r.Sound p → holdsRevision r.revision = true → Fit p r → Poised p r (m :: rest) →
    Faulted p now r m ws → Lawful p now r ws → J r → J (r.afterAll now ws)

lemma state?_after_of_completed {a : NodeState} (hx : r.Allowed p x) (ha : r.state? k = some a)
    (hc : a.status = .completed) : (r.after now x).state? k = some a := by
  have hmoved : ∀ {q : Run} {key : String} {s : NodeState} {u : NodeUpdate},
      q.state? key = some s → s.status ≠ .completed → q.state? k = some a →
      (q.update now key u).state? k = some a := by
    intro q key s u hs hne hq
    have hkey : k ≠ key := by
      rintro rfl
      obtain rfl := Option.some.inj (hs.symm.trans hq)
      exact hne hc
    rw [Run.state?_update_of_ne hkey, hq]
  cases hx with
  | claim hs hm =>
    refine hmoved hs (fun he => ?_) ha
    rw [he] at hm
    cases hm
  | park _ hs hr | complete _ hs hr | fail _ hs hr => exact hmoved hs (by simp [hr]) ha
  | @spawn key s n targets items hs hr =>
    exact hmoved (Run.state?_fanned_of_some targets items hs) (by simp [hr])
      (Run.state?_fanned_of_some targets items ha)
  | note => exact ha

lemma has_completed_after (hx : r.Allowed p x) (h : r.Has k .completed) :
    (r.after now x).Has k .completed := by
  obtain ⟨a, ha, hc⟩ := h
  exact ⟨a, state?_after_of_completed hx ha hc, hc⟩

lemma find?_instances_after {is : List Int} (hx : r.Allowed p x)
    (h : Keyed.find? r.instances k = some is) :
    Keyed.find? (r.after now x).instances k = some is := by
  cases hx with
  | claim | park | complete | fail => rwa [Run.after, Run.instances_update]
  | spawn items hs hr hn hk hc hf =>
    have hk : k ∉ _ := fun hmem => by
      rw [Run.hasInstances_eq_false.mp (hf.whole k hmem)] at h
      cases h
    rwa [Run.after, Run.instances_update, Run.find?_instances_fanned hf, if_neg hk]
  | note => exact h

lemma pending_before (hx : r.Allowed p x) (hk : k ∈ Keyed.keys r.states)
    (h : (r.after now x).Has k .pending) : r.Has k .pending ∧ x.isClaim k = false := by
  have hmoved : ∀ {key : String} {s : NodeState} {u : NodeUpdate} {t : Status},
      r.state? key = some s → u.status = some t → t ≠ .pending →
      (r.update now key u).Has k .pending → key ≠ k ∧ r.Has k .pending := by
    intro key s u t hs hu ht hp
    rw [has_update hs hu] at hp
    split at hp
    · exact absurd hp ht
    · exact ⟨‹_›, hp⟩
  cases hx with
  | claim hs | park _ hs | complete _ hs | fail _ hs =>
    obtain ⟨hne, hp⟩ := hmoved hs rfl (by simp) h
    exact ⟨hp, by simp [Write.isClaim, hne]⟩
  | @spawn key s n targets items hs =>
    rw [Run.after, has_update (Run.state?_fanned_of_some targets items hs) rfl] at h
    split at h
    · cases h
    · exact ⟨(has_fanned.mp h).resolve_right fun hnew => hnew.1 hk, rfl⟩
  | note => exact ⟨h, rfl⟩

lemma isClaim_of_begun (hx : r.Allowed p x) (hpend : r.Has k .pending)
    (hp : ¬ (r.after now x).Has k .pending) : x.isClaim k = true := by
  have hkey : ∀ {q : Run} {key : String} {a : NodeState} {u : NodeUpdate},
      q.state? key = some a → q.Has k .pending → ¬ (q.update now key u).Has k .pending →
      key = k := by
    intro q key a u ha hq hno
    by_contra hne
    obtain ⟨b, hb, hst⟩ := hq
    exact hno ⟨b, (Run.state?_update_of_ne (Ne.symm hne)).trans hb, hst⟩
  have hrun : ∀ {key : String} {a : NodeState}, r.state? key = some a → a.status = .running →
      key ≠ k := by
    rintro key a ha hr rfl
    rw [Run.has_iff ha, hr] at hpend
    cases hpend
  cases hx with
  | claim hs => simp [Write.isClaim, hkey hs hpend hp]
  | park _ hs hr | complete _ hs hr | fail _ hs hr => exact absurd (hkey hs hpend hp) (hrun hs hr)
  | @spawn key a n targets items hs hr =>
    obtain ⟨b, hb, hst⟩ := hpend
    exact absurd (hkey (Run.state?_fanned_of_some targets items hs)
      ⟨b, Run.state?_fanned_of_some targets items hb, hst⟩ hp) (hrun hs hr)
  | note => exact absurd hpend hp

lemma claimsIn_of_pending (h : Lawful p now r ws) (hk : k ∈ Keyed.keys r.states)
    (hp : (r.afterAll now ws).Has k .pending) : r.Has k .pending ∧ claimsIn k ws = 0 := by
  induction h with
  | nil => exact ⟨hp, rfl⟩
  | cons hx _ ih =>
    obtain ⟨hmid, hrest⟩ := ih (Run.Sound.mem_keys_after hx hk) hp
    obtain ⟨hfirst, hclaim⟩ := pending_before hx hk hmid
    refine ⟨hfirst, ?_⟩
    rw [claimsIn_cons, hrest]
    simp [claimsIn, hclaim]

lemma pending_of_unclaimed (h : Lawful p now r ws) (hp : r.Has k .pending)
    (hzero : claimsIn k ws = 0) : (r.afterAll now ws).Has k .pending := by
  induction h with
  | nil => exact hp
  | @cons r x rest hx _ ih =>
    rw [claimsIn_cons] at hzero
    refine ih ?_ (by omega)
    by_contra hbegun
    have hclaim := isClaim_of_begun hx hp hbegun
    simp [claimsIn, hclaim] at hzero

lemma lasts_nonneg : Lasts p fun r => 0 ≤ r.revision := by
  refine ⟨fun {now r x} _ hx h => ?_⟩
  rcases revision_after hx with heq | hsucc
  · rwa [heq]
  · omega

lemma holds_of_le {a b : Int} (ha : 0 ≤ a) (hab : a ≤ b) (hb : holdsRevision b = true) :
    holdsRevision a = true := by
  simp only [holdsRevision, Bool.and_eq_true, decide_eq_true_eq] at hb ⊢
  omega

lemma holds_of_lawful (hl : Lawful p now r ws) (hpos : 0 ≤ r.revision)
    (hend : holdsRevision (r.afterAll now ws).revision = true) :
    holdsRevision r.revision = true := by
  refine holds_of_le hpos ?_ hend
  rcases revision_le hl with heq | hlt
  · rw [heq]
  · exact hlt.le

lemma Endures.and {K : Run → Prop} (hj : Endures p J) (hk : Endures p K) :
    Endures p fun r => J r ∧ K r where
  handled hso hrev hf hq hm hl h :=
    ⟨hj.handled hso hrev hf hq hm hl h.1, hk.handled hso hrev hf hq hm hl h.2⟩
  faulted hso hrev hf hq hm hl h :=
    ⟨hj.faulted hso hrev hf hq hm hl h.1, hk.faulted hso hrev hf hq hm hl h.2⟩

section Rows

variable (hwf : p.WellFormed)
include hwf

lemma Lasts.afterAll (hl : Lasts p J) (hso : r.Sound p) (hws : Lawful p now r ws) (hj : J r) :
    J (r.afterAll now ws) := by
  induction hws with
  | nil => exact hj
  | cons hx _ ih => exact ih (hso.after hwf.child_mem hx) (hl.after hso hx hj)

lemma Lasts.endures (hl : Lasts p J) : Endures p J where
  handled hso _ _ _ _ hws hj := hl.afterAll hwf hso hws hj
  faulted hso _ _ _ _ hws hj := hl.afterAll hwf hso hws hj

lemma Endures.of_gated (hstep : ∀ {now : Instant} {r : Run} {x : Write}, r.Sound p →
    r.Allowed p x → (∀ key, x.isClaim key = true → r.Has key .pending →
      r.Ready p (r.template key)) → J r → J (r.after now x)) : Endures p J := by
  have hall : ∀ {now : Instant} {r : Run} {ws : List Write}, r.Sound p → Lawful p now r ws →
      Gated p now r ws → J r → J (r.afterAll now ws) := by
    intro now r ws hso hl hg hj
    induction hl with
    | nil => exact hj
    | cons hx _ ih =>
      cases hg with
      | cons hready hg => exact ih (hso.after hwf.child_mem hx) hg (hstep hso hx hready hj)
  refine ⟨fun hso _ hf hq hm hl hj => ?_, fun hso _ hf hq hm hl hj => ?_⟩
  · exact hall hso hl (hm.waits hwf hso hf hq).gated hj
  · exact hall hso hl (hm.waits hwf hso hf hq).gated hj

lemma Endures.advanced (he : Endures p J) (hadv : Advanced p now r queue ws) (hso : r.Sound p)
    (hq : holdsRevision r.revision = true → Fit p r ∧ Poised p r queue) (hj : J r) :
    J (r.afterAll now ws) := by
  induction hadv with
  | stopped => exact hj
  | faulted hrev hm hl => exact he.faulted hso hrev (hq hrev).1 (hq hrev).2 hm hl hj
  | next hrev hm hl _ ih =>
    obtain ⟨hf, hpoised⟩ := hq hrev
    rw [Run.afterAll_append]
    exact ih (hso.afterAll hwf.child_mem hl) (hm.waits hwf hso hf hpoised).left
      (he.handled hso hrev hf hpoised hm hl hj)

lemma Passage.sound (h : Passage p r r') (hso : r.Sound p) : r'.Sound p := by
  induction h with
  | refl => exact hso
  | tail _ _ hadv ih => exact ih.afterAll hwf.child_mem hadv.lawful

lemma Passage.fit (h : Passage p r r') (hso : r.Sound p)
    (hf : holdsRevision r.revision = true → Fit p r) :
    holdsRevision r'.revision = true → Fit p r' := by
  induction h with
  | refl => exact hf
  | tail h hq hadv ih =>
    exact (hadv.waits hwf (h.sound hwf hso) fun hrev => ⟨ih hrev, hq _⟩).left

lemma Passage.carries (h : Passage p r r') (he : Endures p J) (hso : r.Sound p)
    (hf : holdsRevision r.revision = true → Fit p r) (hj : J r) : J r' := by
  induction h with
  | refl => exact hj
  | tail h hq hadv ih =>
    exact he.advanced hwf hadv (h.sound hwf hso) (fun hrev => ⟨h.fit hwf hso hf hrev, hq _⟩) ih

lemma Drained.guides {K : Run → List Message → List Write → List Request → Prop}
    {qs sent : List Request} {done : List Write}
    (hstep : ∀ {r : Run} {m : Message} {rest : List Message} {done : List Write}
      {sent : List Request} {ws : List Write} {o : Outcome}, r.Sound p →
      holdsRevision r.revision = true → Fit p r → Poised p r (m :: rest) → Handled p now r m ws o →
      Lawful p now r ws → holdsRevision (r.afterAll now ws).revision = true →
      K r (m :: rest) done sent →
      K (r.afterAll now ws) (rest ++ o.messages) (done ++ ws) (sent ++ o.requests))
    (h : Drained p now r queue ws qs) (hso : r.Sound p) (hpos : 0 ≤ r.revision)
    (hend : holdsRevision (r.afterAll now ws).revision = true)
    (hf : holdsRevision r.revision = true → Fit p r) (hq : Poised p r queue)
    (hk : K r queue done sent) :
    Fit p (r.afterAll now ws) ∧ K (r.afterAll now ws) [] (done ++ ws) (sent ++ qs) := by
  induction h generalizing done sent with
  | done => exact ⟨hf hend, by simpa using hk⟩
  | @next r m rest ws o xs qs hm hl hd ih =>
    have hpos' := (lasts_nonneg (p := p)).afterAll hwf hso hl hpos
    have hso' := hso.afterAll hwf.child_mem hl
    rw [Run.afterAll_append] at hend ⊢
    -- Revisions only rise: what the last row holds, the rows before it hold as well.
    have hmid := holds_of_lawful hd.lawful hpos' hend
    have hrev := holds_of_lawful hl hpos hmid
    have hfit := hf hrev
    obtain ⟨hf', hq'⟩ := (hm.waits hwf hso hfit hq).left hmid
    rw [← List.append_assoc, ← List.append_assoc]
    exact ih hso' hpos' hend (fun _ => hf') hq' (hstep hso hrev hfit hq hm hl hmid hk)

lemma Endures.drained {qs : List Request} (he : Endures p J) (h : Drained p now r queue ws qs)
    (hso : r.Sound p) (hpos : 0 ≤ r.revision)
    (hend : holdsRevision (r.afterAll now ws).revision = true)
    (hf : holdsRevision r.revision = true → Fit p r) (hq : Poised p r queue) (hj : J r) :
    J (r.afterAll now ws) := by
  let K (r : Run) (_ : List Message) (_ : List Write) (_ : List Request) : Prop := J r
  have hguided : Fit p (r.afterAll now ws) ∧ K (r.afterAll now ws) [] ([] ++ ws) ([] ++ qs) :=
    h.guides hwf (fun hso hrev hf hq hm hl _ hj => he.handled hso hrev hf hq hm hl hj) hso hpos
      hend hf hq hj
  exact hguided.2

end Rows

end Workflow.Engine
