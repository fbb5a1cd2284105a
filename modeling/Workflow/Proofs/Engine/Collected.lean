import Workflow.Proofs.Engine.Spared

/-! A collector is claimed once, when its sources are done, and it shows what they come to. -/

namespace Workflow.Engine

open Run (Lawful SameAt)
open Store (holdsRevision)

def Joined (p : Plan) (n : PlanNode) (r : Run) : Prop :=
  match collectValue p r n with
  | .ok x => r.result? n.id = some x
  | .error _ => r.Has n.id .failed

inductive Tally (p : Plan) (n : PlanNode) (r : Run) (claims : Nat) : Prop where
  | waiting (h : r.Has n.id .pending) (hzero : claims = 0)
  | joined (hr : r.Ready p n.id) (hj : Joined p n r) (hone : claims = 1)

variable {p : Plan} {now : Instant} {r r' snap : Run} {n : PlanNode} {key k s t : String} {x : Json}
  {source : Status} {ws : List Write} {o : Outcome} {m : Message} {out rest : List Message}
  {mapping : Mapping} {claims : Nat}

lemma Started.claims_other (h : Started p now r n key x source ws o) (hk : k ≠ key) :
    claimsIn k ws = 0 := by
  cases h with
  | skipped => rfl
  | worked hs hw =>
    rw [claimsIn_cons, hw.claims]
    simp [claimsIn, Write.isClaim, hk.symm]

lemma FiredAll.claims_other {l : List String} (h : FiredAll p now snap n mapping r l ws o)
    (hk : k ∉ l) : claimsIn k ws = 0 := by
  induction h with
  | nil => rfl
  | passed _ _ ih => exact ih fun hmem => hk (List.mem_cons_of_mem _ hmem)
  | fired _ _ _ hw _ ih =>
    rw [claimsIn_append, hw.claims_other fun he => hk (he ▸ List.mem_cons_self),
      ih fun hmem => hk (List.mem_cons_of_mem _ hmem)]

lemma Handled.unclaimed (hso : r.Sound p) (h : Handled p now r m ws o) (ht : t ∈ p.nodeIds)
    (hm : m ≠ .fire t) (hw : ¬ r.Has t .waitingForUser)
    (hr : r.Has t .failed → ∀ key, m ≠ .retry key) : claimsIn t ws = 0 := by
  cases h with
  | walked | strayed | missing | hollow | ignored | reconciled => rfl
  | instances hn hi _ _ hf => exact hf.claims_other fun hmem => hso.instanceText_ne hmem ht
  | whole hn _ _ hs => exact hs.claims_other fun he => hm (he ▸ rfl)
  | reported hs hnotes => exact claims_reported _ _ hnotes t
  | resumed hs =>
    have hne : t ≠ _ := fun he => hw (he ▸ hs)
    simp [claimsIn, Write.isClaim, hne.symm, NodeUpdate.finish, NodeUpdate.toStatus]
  | retried hs hst _ _ hw => exact hw.claims_other fun he => hr (he ▸ ⟨_, hs, hst⟩) _ rfl

section Handled

variable (hwf : p.WellFormed) (hso : r.Sound p)
include hwf hso

lemma Handled.settled_kept (h : Handled p now r m ws o) (hm : ∀ key, m ≠ .retry key)
    (hk : r.Settled k) : (r.afterAll now ws).shown? k = r.shown? k := by
  have hapart : ∀ {key st}, r.Has key st → st.isTerminal = false → k ≠ key := by
    rintro key st hs hst rfl
    exact hs.not_settled hst hk
  have hgrown : m.isCommand = false → (r.afterAll now ws).shown? k = r.shown? k := by
    intro hc
    obtain ⟨st, _, hst⟩ := hk.begun
    obtain ⟨v, hv, _⟩ := Run.has_iff_shown.mp hst
    rw [hv, (h.grows hwf hso hc).kept hk.begun hv]
  cases h with
  | walked | strayed | missing | hollow | ignored | reconciled => rfl
  | instances | whole => exact hgrown rfl
  | reported hs hnotes =>
    rw [Run.afterAll_cons, afterAll_notes hnotes, Run.after, shown?_update_of_ne (hapart hs rfl)]
  | resumed hs =>
    have hne := hapart hs rfl
    exact (shown?_update_of_ne hne).trans (shown?_update_of_ne hne)
  | retried => exact absurd rfl (hm _)

omit hwf hso in
lemma sameAt_of_done (hd : r.Done p t s) (ha : Announces p r r' out) (hs : s ∈ p.nodeIds)
    (hspared : Spared p r') (hkept : ∀ {k}, r.Settled k → r'.shown? k = r.shown? k) :
    SameAt r r' s := by
  refine ⟨?_, fun k hk => (hkept (hd.settled hk)).symm⟩
  by_cases hi : r.hasInstances s = true
  · obtain ⟨is, hf⟩ := Run.hasInstances_iff.mp hi
    exact hf.trans (ha.kept hf).symm
  · have hset := hd.settled (by rw [Run.keysOf, if_neg hi, List.mem_singleton])
    have hi' := hspared.whole hs ((Run.settled_congr (hkept hset)).mpr hset).begun
    rw [Run.hasInstances_eq_false.mp hi', Run.hasInstances_eq_false.mp (by simpa using hi)]

end Handled

lemma Joined.settled (h : Joined p n r) : r.Settled n.id := by
  unfold Joined at h
  split at h
  · exact .inl (Run.has_of_result? h)
  · exact .inr h

lemma Joined.congr (h : Joined p n r) (hs : ∀ s ∈ p.parents n.id, SameAt r r' s)
    (hself : r'.shown? n.id = r.shown? n.id) : Joined p n r' := by
  unfold Joined at h ⊢
  rw [← collectValue_congr hs]
  split at h
  · rwa [Run.result?, hself]
  · exact (Run.has_congr hself).mpr h

section Collector

variable (hwf : p.WellFormed) (hso : r.Sound p) (hn : p.node? n.id = some n)
include hwf hso hn

lemma sameAt_apart (hs : s ∈ p.parents n.id) (hi : r'.instances = r.instances)
    (hsame : ∀ k ≠ n.id, r'.shown? k = r.shown? k) : SameAt r r' s := by
  have hc := hwf.parents_iff.mp hs
  refine ⟨by rw [hi], fun k hk => (hsame k ?_).symm⟩
  rintro rfl
  have ht := hso.template_keysOf (hwf.parent_mem hc) hk
  rw [hso.template_node (Plan.mem_nodeIds_iff.mpr ⟨n, hn⟩)] at ht
  exact hwf.not_mem_children (ht ▸ hc)

variable (hkind : n.kind = .collector)
include hkind

lemma Started.joins (h : Started p now r n n.id x .pending ws o) (hp : r.Has n.id .pending)
    (hr : r.Ready p n.id) : Tally p n (r.afterAll now ws) (claimsIn n.id ws) := by
  cases h with
  | skipped hno => exact absurd hp hno
  | @worked ws o _ hw =>
    obtain ⟨u, hu, _⟩ := Run.has_iff_shown.mp hp
    have hclaimed : (r.update now n.id (.toStatus .running)).shown? n.id =
        some (showAfter (.toStatus .running) u) := shown?_update_self hu
    have hone : claimsIn n.id (.move n.id (.toStatus .running) :: ws) = 1 := by
      rw [claimsIn_cons, hw.claims]
      simp [claimsIn, Write.isClaim]
    have hclaim : ∀ s ∈ p.parents n.id, SameAt r (r.update now n.id (.toStatus .running)) s :=
      fun s hs => sameAt_apart hwf hso hn hs Run.instances_update fun _ => shown?_update_of_ne
    have hmoved : ∀ y, ∀ s ∈ p.parents n.id,
        SameAt r ((r.update now n.id (.toStatus .running)).update now n.id y) s := fun y s hs =>
      sameAt_apart hwf hso hn hs (Run.instances_update.trans Run.instances_update) fun _ hk =>
        (shown?_update_of_ne hk).trans (shown?_update_of_ne hk)
    cases hw with
    | sent hk | parked hk | unsplit hk | whole hk | rejected hk | split hk => simp [hkind] at hk
    | uncollected _ hc =>
      refine .joined (hr.congr (hmoved _)) ?_ hone
      unfold Joined
      rw [Run.afterAll_cons, Run.afterAll_cons, Run.afterAll_nil, Run.after, Run.after,
        ← collectValue_congr (hmoved _), collectValue_congr hclaim, hc]
      exact Run.has_of_shown? (shown?_update_self hclaimed)
    | collected _ hc =>
      refine .joined (hr.congr (hmoved _)) ?_ hone
      unfold Joined
      rw [Run.afterAll_cons, Run.afterAll_cons, Run.afterAll_nil, Run.after, Run.after,
        ← collectValue_congr (hmoved _), collectValue_congr hclaim, hc]
      change Run.result? _ _ = _
      rw [Run.result?, shown?_update_self hclaimed]
      rfl

lemma Tally.step (ht : Tally p n r claims) (hi : r.hasInstances n.id = false)
    (hq : Poised p r (m :: rest)) (hm : Handled p now r m ws o) (hl : Lawful p now r ws)
    (hretry : ∀ key, m = .retry key → r.Has n.id .pending)
    (hspared : Spared p (r.afterAll now ws)) :
    Tally p n (r.afterAll now ws) (claims + claimsIn n.id ws) := by
  have hmem := Plan.mem_nodeIds_iff.mpr ⟨n, hn⟩
  -- The collector has no instances, and so it is fired as a whole.
  have hfire : m = .fire n.id → ∃ x, Started p now r n n.id x .pending ws o := by
    rintro rfl
    cases hm with
    | missing hno => exact absurd hmem hno
    | hollow _ hh => simp [Run.hasInstances_of_hollow hh] at hi
    | instances _ his => simp [his] at hi
    | whole hn' _ _ hs =>
      obtain rfl := Option.some.inj (hn.symm.trans hn')
      exact ⟨_, hs⟩
  cases ht with
  | waiting hp hzero =>
    subst hzero
    by_cases hf : m = .fire n.id
    · obtain ⟨x, hs⟩ := hfire hf
      subst hf
      simpa using hs.joins hwf hso hn hkind hp hq.ready
    · have hnone := hm.unclaimed hso hmem hf (fun hw => absurd (hp.unique hw) (by simp))
        fun hfailed => absurd (hp.unique hfailed) (by simp)
      exact .waiting (pending_of_unclaimed hl hp hnone) (by omega)
  | joined hr hj hone =>
    have hset := hj.settled
    have hnp : ¬ r.Has n.id .pending := fun hp => hp.not_settled rfl hset
    have hkept : ∀ {k}, r.Settled k → (r.afterAll now ws).shown? k = r.shown? k :=
      hm.settled_kept hwf hso fun key he => hnp (hretry key he)
    have hsame : ∀ s ∈ p.parents n.id, SameAt r (r.afterAll now ws) s := fun s hs =>
      sameAt_of_done (hr s hs) (hm.announces hwf hso) (hwf.parent_mem (hwf.parents_iff.mp hs))
        hspared hkept
    have hnone : claimsIn n.id ws = 0 := by
      by_cases hf : m = .fire n.id
      · obtain ⟨x, hs⟩ := hfire hf
        cases hs with
        | skipped => rfl
        | worked hp => exact absurd hp hnp
      · exact hm.unclaimed hso hmem hf (fun hw => hw.not_settled rfl hset)
          fun _ key he => hnp (hretry key he)
    exact .joined (hr.congr hsame) (hj.congr hsame (hkept hset)) (by omega)

end Collector

end Workflow.Engine
