import Workflow.Proofs.Engine.Grown
import Workflow.Proofs.Engine.Requests

/-! Joins wait: a pending key is started only if the sources of its node are all done, whatever the
queue has brought about since the node was found ready. -/

namespace Workflow.Engine

open Run (Lawful)
open Store (holdsRevision)

inductive Gated (p : Plan) (now : Instant) : Run → List Write → Prop where
  | nil {r} : Gated p now r []
  | cons {r x rest}
      (h : ∀ key, x.isClaim key = true → r.Has key .pending → r.Ready p (r.template key))
      (hrest : Gated p now (r.after now x) rest) : Gated p now r (x :: rest)

structure Fit (p : Plan) (r : Run) : Prop where
  swift : ∀ {key n}, p.node? (r.template key) = some n → n.kind = .splitter →
    ¬ r.Has key .running ∧ ¬ r.Has key .waitingForUser
  spread : ∀ {x n t}, p.node? x = some n → n.kind = .splitter → r.hasInstances x = false →
    r.Has x .completed → t ∈ p.fannedOut x → r.hasInstances t = true
  late : ∀ {x n t}, p.node? x = some n → n.kind = .splitter → t ∈ p.fannedOut x →
    r.hasInstances t = false → ¬ r.Has t .pending →
      r.hasInstances x = true ∧ ∀ k ∈ instanceTexts r x, ¬ r.Has k .pending

structure Stirs (p : Plan) (n : PlanNode) (key : String) (r r' : Run) : Prop where
  others : ∀ {k}, k ≠ key → r'.shown? k = r.shown? k ∨
    r.shown? k = none ∧ ∃ v, r'.shown? k = some v ∧ v.status = .pending
  begun : ¬ r'.Has key .pending
  kept : ∀ {t is}, Keyed.find? r.instances t = some is → Keyed.find? r'.instances t = some is
  stable : ∀ {k}, k ∈ Keyed.keys r.states →
    k ∈ Keyed.keys r'.states ∧ r'.template k = r.template k
  fanned : ∀ {t}, r'.hasInstances t = true →
    r.hasInstances t = true ∨ n.kind = .splitter ∧ t ∈ p.fannedOut n.id
  ended : n.kind = .splitter → r'.Has key .failed ∨
    r'.Has key .completed ∧ ∀ t ∈ p.fannedOut n.id, r'.hasInstances t = true

variable {p : Plan} {now : Instant} {r r' : Run} {n m : PlanNode} {key k s t : String}
  {x : Json} {st : Status} {source : Status} {ws xs : List Write} {o : Outcome}
  {out rest : List Message} {msg : Message} {queue : List Message}

namespace Gated

lemma append (h : Gated p now r ws) (h' : Gated p now (r.afterAll now ws) xs) :
    Gated p now r (ws ++ xs) := by
  induction h with
  | nil => exact h'
  | cons hx _ ih => exact .cons hx (ih h')

lemma of_no_claims (h : ∀ k, claimsIn k ws = 0) : Gated p now r ws := by
  induction ws generalizing r with
  | nil => exact .nil
  | cons y rest ih =>
    have hzero : ∀ k, claimsIn k [y] = 0 ∧ claimsIn k rest = 0 := by
      intro k
      have hk := h k
      rw [claimsIn_cons] at hk
      omega
    refine .cons (fun k hy => ?_) (ih fun k => (hzero k).2)
    have hk := (hzero k).1
    simp [claimsIn, hy] at hk

lemma of_claim (h : r.Has key .pending → r.Ready p (r.template key))
    (hws : ∀ k, claimsIn k ws = 0) : Gated p now r (.move key (.toStatus .running) :: ws) := by
  refine .cons (fun k hk hp => ?_) (of_no_claims hws)
  obtain ⟨rfl, _⟩ := by simpa [Write.isClaim] using hk
  exact h hp

end Gated

/-! What one key's move leaves of the others -/

namespace Stirs

variable (h : Stirs p n key r r')
include h

lemma has_iff (hne : k ≠ key) (hk : k ∈ Keyed.keys r.states) : r'.Has k st ↔ r.Has k st := by
  rcases h.others hne with heq | ⟨hnone, _⟩
  · exact Run.has_congr heq
  · obtain ⟨v, hv⟩ := Run.exists_shown hk
    rw [hnone] at hv
    cases hv

lemma pending_of_new (hne : k ≠ key) (hk : k ∉ Keyed.keys r.states) (hst : r'.Has k st) :
    st = .pending := by
  rcases h.others hne with heq | ⟨_, v, hv, hp⟩
  · obtain ⟨v, hv, _⟩ := Run.has_iff_shown.mp ((Run.has_congr heq).mp hst)
    exact absurd (Run.mem_keys_of_shown? hv) hk
  · exact (Run.status_of_shown? hv hst).symm.trans hp

lemma hasInstances (hi : r.hasInstances t = true) : r'.hasInstances t = true := by
  obtain ⟨is, hf⟩ := Run.hasInstances_iff.mp hi
  exact Run.hasInstances_iff.mpr ⟨is, h.kept hf⟩

lemma whole (hi : r'.hasInstances t = false) : r.hasInstances t = false := by
  by_contra hr
  rw [h.hasInstances (by simpa using hr)] at hi
  cases hi

lemma instanceTexts (hi : r.hasInstances t = true) :
    Engine.instanceTexts r' t = Engine.instanceTexts r t := by
  obtain ⟨is, hf⟩ := Run.hasInstances_iff.mp hi
  exact Run.instanceTexts_congr ((h.kept hf).trans hf.symm)

end Stirs

section Rows

variable (hwf : p.WellFormed) (hso : r.Sound p) (hf : Fit p r)
include hwf hso hf

omit hwf hso in
lemma Fit.spent (hm : p.node? s = some m) (hkind : m.kind = .splitter) (ht : t ∈ p.fannedOut s)
    (hs : s ∈ p.parents t) (hi : r.hasInstances t = false) (hready : r.Ready p t) :
    r.hasInstances s = true ∧ ∀ k ∈ instanceTexts r s, ¬ r.Has k .pending := by
  have hd := hready s hs
  unfold Run.Done at hd
  split at hd
  · rename_i his
    exact ⟨his, fun k hk hp => hp.not_settled rfl (hd k hk)⟩
  · rename_i his
    rcases hd with hc | ⟨hcol, _⟩
    · have hfan := hf.spread hm hkind (by simpa using his) hc ht
      rw [hi] at hfan
      cases hfan
    · rw [(Plan.mem_fannedOut.mp ht).2] at hcol
      cases hcol

section Stirs

variable (h : Stirs p n key r r')
include h

omit hwf hso hf in
lemma Stirs.splitter_cases (hn : p.node? (r.template key) = some n)
    (hk : key ∈ Keyed.keys r.states) (hm : p.node? (r'.template k) = some m)
    (hkind : m.kind = .splitter) (hst : r'.Has k st) (hne : st ≠ .pending) :
    st = .failed ∨ st = .completed ∨ r.Has k st ∧ p.node? (r.template k) = some m := by
  by_cases hkey : k = key
  · subst hkey
    rw [(h.stable hk).2, hn] at hm
    obtain rfl := Option.some.inj hm
    rcases h.ended hkind with hend | ⟨hend, _⟩
    · exact .inl (hst.unique hend)
    · exact .inr (.inl (hst.unique hend))
  · by_cases hmem : k ∈ Keyed.keys r.states
    · exact .inr (.inr ⟨(h.has_iff hkey hmem).mp hst, (h.stable hmem).2 ▸ hm⟩)
    · exact absurd (h.pending_of_new hkey hmem hst) hne

lemma Stirs.spread (hn : p.node? (r.template key) = some n) (hm : p.node? s = some m)
    (hkind : m.kind = .splitter) (hi : r'.hasInstances s = false) (hc : r'.Has s .completed)
    (ht : t ∈ p.fannedOut s) : r'.hasInstances t = true := by
  have hs := Plan.mem_nodeIds_iff.mpr ⟨m, hm⟩
  by_cases hkey : s = key
  · subst hkey
    rw [hso.template_node hs, hm] at hn
    obtain rfl := Option.some.inj hn
    obtain rfl := hwf.id_eq hm
    rcases h.ended hkind with hend | ⟨_, hall⟩
    · exact absurd (hc.unique hend) (by simp)
    · exact hall t ht
  · have hc' := (h.has_iff hkey (hso.node_mem hs)).mp hc
    exact h.hasInstances (hf.spread hm hkind (h.whole hi) hc' ht)

lemma Stirs.late (hn : p.node? (r.template key) = some n)
    (hready : r.Has key .pending → r.Ready p n.id) (hm : p.node? s = some m)
    (hkind : m.kind = .splitter) (ht : t ∈ p.fannedOut s) (hi : r'.hasInstances t = false)
    (hp : ¬ r'.Has t .pending) :
    r'.hasInstances s = true ∧ ∀ k ∈ Engine.instanceTexts r' s, ¬ r'.Has k .pending := by
  have hchild := (Plan.mem_fannedOut.mp ht).1
  have htn := hwf.child_mem hchild
  -- The target was begun before, or it begins now, and then it is ready.
  obtain ⟨his, hnone⟩ : r.hasInstances s = true ∧
      ∀ k ∈ Engine.instanceTexts r s, ¬ r.Has k .pending := by
    by_cases hpend : r.Has t .pending
    · have hkey : t = key := by
        by_contra hne
        exact hp ((h.has_iff hne (hso.node_mem htn)).mpr hpend)
      subst hkey
      rw [hso.template_node htn] at hn
      obtain rfl := hwf.id_eq hn
      exact hf.spent hm hkind ht (hwf.parents_iff.mpr hchild) (h.whole hi) (hready hpend)
    · exact hf.late hm hkind ht (h.whole hi) hpend
  refine ⟨h.hasInstances his, fun k hk hkp => ?_⟩
  rw [h.instanceTexts his] at hk
  obtain ⟨v, hv⟩ := hso.text_state hk
  by_cases hkey : k = key
  · exact h.begun (hkey ▸ hkp)
  · exact hnone k hk ((h.has_iff hkey (Run.mem_keys_of_state? hv)).mp hkp)

lemma Stirs.fit (hn : p.node? (r.template key) = some n) (hk : key ∈ Keyed.keys r.states)
    (hready : r.Has key .pending → r.Ready p n.id) : Fit p r' where
  swift {k m} hm hkind := by
    constructor
    · intro hst
      rcases h.splitter_cases hn hk hm hkind hst (by simp) with he | he | ⟨hold, hm'⟩
      · cases he
      · cases he
      · exact (hf.swift hm' hkind).1 hold
    · intro hst
      rcases h.splitter_cases hn hk hm hkind hst (by simp) with he | he | ⟨hold, hm'⟩
      · cases he
      · cases he
      · exact (hf.swift hm' hkind).2 hold
  spread := h.spread hwf hso hf hn
  late := h.late hwf hso hf hn hready

end Stirs

omit hwf hso in
lemma Stirs.ready (h : Stirs p n key r r') (hn : p.node? n.id = some n) (hk : key ∈ r.keysOf n.id)
    (hpend : r.Has key .pending) (hready : r.Ready p t) : r'.Ready p t := by
  intro s hs
  have hd := hready s hs
  have hne : ∀ {k st}, r.Has k st → st ≠ .pending → k ≠ key := by
    rintro k st hst hstp rfl
    exact hstp (hst.unique hpend)
  have hstay : ∀ {k st}, r.Has k st → st ≠ .pending → r'.Has k st := by
    intro k st hst hstp
    obtain ⟨a, ha, _⟩ := id hst
    exact (h.has_iff (hne hst hstp) (Run.mem_keys_of_state? ha)).mpr hst
  unfold Run.Done at hd ⊢
  split at hd
  · rename_i hi
    rw [if_pos (h.hasInstances hi), h.instanceTexts hi]
    intro k hk
    exact (hd k hk).imp (fun hc => hstay hc (by simp)) fun hc => hstay hc (by simp)
  · rename_i hi
    have hbegun : ¬ r.Has s .pending := by
      rcases hd with hc | ⟨_, hc⟩
      · exact fun hp => absurd (hc.unique hp) (by simp)
      · exact fun hp => absurd (hc.unique hp) (by simp)
    have hi' : ¬ r'.hasInstances s = true := by
      intro hnew
      rcases h.fanned hnew with hold | ⟨hkind, ht⟩
      · exact hi hold
      · -- The splitter's instances are all begun, and so none of them is started here.
        obtain ⟨hix, hnone⟩ := hf.late hn hkind ht (by simpa using hi) hbegun
        rw [Run.keysOf, if_pos hix] at hk
        exact hnone key hk hpend
    rw [if_neg hi']
    exact hd.imp (fun hc => hstay hc (by simp)) (And.imp_right fun hc => hstay hc (by simp))

end Rows

/-! Starts -/

lemma Worked.fanned (h : Worked p r n key x ws o)
    (hi : (r.afterAll now ws).hasInstances t = true) :
    r.hasInstances t = true ∨ n.kind = .splitter ∧ t ∈ p.fannedOut n.id := by
  obtain ⟨is, hfind⟩ := Run.hasInstances_iff.mp hi
  cases h with
  | sent => exact .inl hi
  | parked | unsplit | whole | rejected | uncollected | collected =>
    simp only [Run.afterAll_cons, Run.afterAll_nil, Run.after, Run.instances_update] at hfind
    exact .inl (Run.hasInstances_iff.mpr ⟨is, hfind⟩)
  | split hk _ _ hsp =>
    simp only [Run.afterAll_cons, Run.afterAll_nil, Run.after, Run.instances_update] at hfind
    rw [Run.find?_instances_fanned hsp] at hfind
    split at hfind
    · rename_i ht
      exact .inr ⟨hk, ht⟩
    · exact .inl (Run.hasInstances_iff.mpr ⟨is, hfind⟩)

lemma Worked.ended (h : Worked p r n key x ws o) (hs : r.Has key .running)
    (hk : n.kind = .splitter) :
    (r.afterAll now ws).Has key .failed ∨ (r.afterAll now ws).Has key .completed ∧
      ∀ t ∈ p.fannedOut n.id, (r.afterAll now ws).hasInstances t = true := by
  obtain ⟨s, hs, _⟩ := hs
  cases h with
  | sent hw | parked hw | uncollected hw | collected hw => simp [hk] at hw
  | unsplit | rejected => exact .inl ((has_update hs rfl).mpr (by simp))
  | whole _ _ hnil => exact .inr ⟨(has_update hs rfl).mpr (by simp), by simp [hnil]⟩
  | @split items _ _ _ hsp =>
    have hfan := Run.state?_fanned_of_some (p.fannedOut n.id) items hs
    refine .inr ⟨(has_update hfan rfl).mpr (by simp), fun t ht => ?_⟩
    refine Run.hasInstances_iff.mpr ⟨indices items.length, ?_⟩
    simp only [Run.afterAll_cons, Run.afterAll_nil, Run.after, Run.instances_update]
    rw [Run.find?_instances_fanned hsp, if_pos ht]

section Started

variable (hwf : p.WellFormed) (hso : r.Sound p)
include hwf hso

lemma Started.stirs (h : Started p now r n key x source ws o) (hs : r.Has key source)
    (hn : p.node? (r.template key) = some n) : Stirs p n key r (r.afterAll now ws) := by
  have ha := h.announces hwf hso hn
  have hothers := fun k => h.others (k := k)
  cases h with
  | skipped hno => exact absurd hs hno
  | worked hs hw =>
    have hrun := has_claimed now hs
    obtain ⟨a, hk, _⟩ := id hrun
    refine ⟨fun hne => hothers _ hne, ?_, ha.kept, ha.stable, fun hi => ?_, hw.ended hrun⟩
    · exact (hw.announces hwf hso.update hrun (by simpa using hn)).not_pending
        (Run.mem_keys_of_state? hk) fun hp => absurd (hrun.unique hp) (by simp)
    · refine (hw.fanned hi).imp_left fun hold => ?_
      rwa [Run.hasInstances, Run.instances_update] at hold

omit hwf hso in
lemma Started.gated (h : Started p now r n key x source ws o)
    (hready : r.Has key source → r.Has key .pending → r.Ready p (r.template key)) :
    Gated p now r ws := by
  cases h with
  | skipped => exact .nil
  | worked hs hw => exact .of_claim (hready hs) hw.claims

omit hwf hso in
lemma Interrupted.gated (h : Interrupted now r n key source ws)
    (hready : r.Has key source → r.Has key .pending → r.Ready p (r.template key)) :
    Gated p now r ws := by
  cases h with
  | unclaimed => exact .nil
  | claimed hs => exact .of_claim (hready hs) (by simp [claimsIn])

omit hwf hso in
lemma Interrupted.row (h : Interrupted now r n key source ws) :
    r.afterAll now ws = r ∨ holdsRevision (r.afterAll now ws).revision = false := by
  cases h with
  | unclaimed => exact .inl rfl
  | claimed _ _ hrev => exact .inr hrev

def Steady (p : Plan) (r r' : Run) : Prop := Fit p r' ∧ ∀ {m}, r.Ready p m → r'.Ready p m

variable (hf : Fit p r)
include hf

lemma Started.steady (h : Started p now r n key x .pending ws o) (hn : p.node? n.id = some n)
    (hk : key ∈ r.keysOf n.id) (hready : r.Ready p n.id) : Steady p r (r.afterAll now ws) := by
  have ht := hso.template_keysOf (Plan.mem_nodeIds_iff.mpr ⟨n, hn⟩) hk
  by_cases hpend : r.Has key .pending
  · have hstirs := h.stirs hwf hso hpend (by rwa [ht])
    obtain ⟨s, hs, _⟩ := id hpend
    exact ⟨hstirs.fit hwf hso hf (by rwa [ht]) (Run.mem_keys_of_state? hs) fun _ => hready,
      fun hm => hstirs.ready hf hn hk hpend hm⟩
  · cases h with
    | skipped => exact ⟨hf, id⟩
    | worked hs => exact absurd hs hpend

end Started

lemma FiredAll.firedSome {snap : Run} {mapping : Mapping} {l : List String}
    (h : FiredAll p now snap n mapping r l ws o) : FiredSome p now snap n mapping r l ws := by
  induction h with
  | nil => exact .stopped
  | passed _ _ ih => exact .passed ih
  | fired hs _ hi hw _ ih => exact .fired hs hi hw ih

/-! Messages -/

inductive Poised (p : Plan) (r : Run) : List Message → Prop where
  | command {m : Message} (hm : m.isCommand = true) : Poised p r [m]
  | onward {queue : List Message}
      (h : ∀ m ∈ queue, (∃ k, m = .walk k) ∨ ∃ t, m = .fire t ∧ r.Ready p t) : Poised p r queue

structure Waits (p : Plan) (now : Instant) (r : Run) (ws : List Write) (P : Run → Prop) : Prop where
  gated : Gated p now r ws
  left : holdsRevision (r.afterAll now ws).revision = true → P (r.afterAll now ws)

variable {P Q : Run → Prop}

lemma Waits.mono (h : Waits p now r ws P) (hpq : ∀ {q}, P q → Q q) : Waits p now r ws Q :=
  ⟨h.gated, fun hrev => hpq (h.left hrev)⟩

lemma Waits.append (h : Gated p now r ws) (h' : Waits p now (r.afterAll now ws) xs P) :
    Waits p now r (ws ++ xs) P where
  gated := h.append h'.gated
  left hrev := by
    rw [Run.afterAll_append] at hrev ⊢
    exact h'.left hrev

lemma Interrupted.waits (h : Interrupted now r n key source ws)
    (hready : r.Has key source → r.Has key .pending → r.Ready p (r.template key)) (hp : P r) :
    Waits p now r ws P where
  gated := h.gated hready
  left hrev := by
    rcases h.row with heq | hno
    · rwa [heq]
    · rw [hno] at hrev
      cases hrev

section Handled

variable (hwf : p.WellFormed) (hso : r.Sound p) (hf : Fit p r)
include hwf hso hf

lemma FiredSome.waits {snap : Run} {mapping : Mapping} {l : List String}
    (h : FiredSome p now snap n mapping r l ws) (hn : p.node? n.id = some n)
    (hready : r.Ready p n.id) (hi : r.hasInstances n.id = true)
    (hl : ∀ k ∈ l, k ∈ instanceTexts r n.id) : Waits p now r ws (Steady p r) := by
  have hmem := Plan.mem_nodeIds_iff.mpr ⟨n, hn⟩
  have hkeys : r.keysOf n.id = instanceTexts r n.id := by rw [Run.keysOf, if_pos hi]
  induction h with
  | stopped => exact ⟨.nil, fun _ => ⟨hf, id⟩⟩
  | interrupted h =>
    have hk := hso.template_instanceText (hl _ List.mem_cons_self)
    exact h.waits (fun _ _ => hk ▸ hready) ⟨hf, id⟩
  | passed _ ih => exact ih hso hf hready hi (List.forall_mem_cons.mp hl).2 hkeys
  | @fired r key rest _ x ws xs o _ _ hw _ ih =>
    obtain ⟨hk, hrest⟩ := List.forall_mem_cons.mp hl
    have ht := hso.template_instanceText hk
    have hlaw : Lawful p now r ws := hw.lawful (by rwa [ht]) rfl
    have ha := hw.announces hwf hso (by rwa [ht])
    obtain ⟨hf', hstay⟩ := hw.steady hwf hso hf hn (hkeys ▸ hk) hready
    have htexts := ha.instanceTexts hi
    have hi' := ha.hasInstances hi
    -- The node is still ready for the next of its keys.
    refine .append (hw.gated fun _ _ => ht ▸ hready) ?_
    refine (ih (hso.afterAll hwf.child_mem hlaw) hf' (hstay hready) hi'
      (fun k hk => htexts ▸ hrest k hk) (by rw [Run.keysOf, if_pos hi'])).mono ?_
    exact And.imp_right fun hstay' _ hm => hstay' (hstay hm)

lemma Handled.fire_waits (h : Handled p now r (.fire t) ws o) (hready : r.Ready p t) :
    Waits p now r ws (Steady p r) ∧ ∀ a ∈ o.messages, ∃ k, a = .walk k := by
  cases h with
  | missing => exact ⟨⟨.nil, fun _ => ⟨hf, id⟩⟩, by simp [Outcome.nothing]⟩
  | hollow => exact ⟨⟨.nil, fun _ => ⟨hf, id⟩⟩, by simp [Outcome.walk]⟩
  | instances hn hi _ _ hfired =>
    obtain rfl := hwf.id_eq hn
    exact ⟨hfired.firedSome.waits hwf hso hf hn hready hi fun _ hk => hk,
      fun _ => hfired.only_walks⟩
  | whole hn hi _ hs =>
    obtain rfl := hwf.id_eq hn
    have ht := hso.template_node (Plan.mem_nodeIds_iff.mpr ⟨_, hn⟩)
    exact ⟨⟨hs.gated fun _ _ => by rwa [ht], fun _ =>
      hs.steady hwf hso hf hn (by simp [Run.keysOf, hi]) hready⟩, fun _ => hs.only_walks⟩

lemma begun_fit (h : Stirs p n key r r') (hs : r.Has key st) (hne : st ≠ .pending)
    (hn : p.node? (r.template key) = some n) : Fit p r' := by
  obtain ⟨s, hk, _⟩ := id hs
  exact h.fit hwf hso hf hn (Run.mem_keys_of_state? hk) fun hp => absurd (hs.unique hp) hne

omit hwf hso hf in
lemma moved_stirs (ha : Announces p r r' out) (hs : r.Has key st) (hne : st ≠ .pending)
    (hkind : n.kind ≠ .splitter)
    (hi : r'.instances = r.instances) (hothers : ∀ {k}, k ≠ key → r'.shown? k = r.shown? k) :
    Stirs p n key r r' := by
  obtain ⟨s, hk, _⟩ := id hs
  have hmem := Run.mem_keys_of_state? hk
  refine ⟨fun hk => .inl (hothers hk), ?_, ha.kept, ha.stable, fun {t} hnew => ?_,
    fun hk => absurd hk hkind⟩
  · exact ha.not_pending hmem fun hp => absurd (hs.unique hp) hne
  · rw [Run.hasInstances, hi] at hnew
    exact .inl hnew

lemma Handled.answer_stirs (h : Handled p now r msg ws o)
    (hm : (∃ key c, msg = .callback key c) ∨ ∃ key x, msg = .resume key x) :
    r.afterAll now ws = r ∨ ∃ n key st, p.node? (r.template key) = some n ∧ n.kind ≠ .splitter ∧
      r.Has key st ∧ st ≠ .pending ∧ Stirs p n key r (r.afterAll now ws) := by
  have ha := h.announces hwf hso
  have hnode : ∀ {key st}, r.Has key st → st = .running ∨ st = .waitingForUser →
      ∃ n, p.node? (r.template key) = some n ∧ n.kind ≠ .splitter := by
    intro key st hs hst
    obtain ⟨s, hk, _⟩ := id hs
    obtain ⟨n, hn, _, _⟩ := node_template hwf hso (Run.mem_keys_of_state? hk)
    refine ⟨n, hn, fun hkind => ?_⟩
    rcases hst with rfl | rfl
    · exact (hf.swift hn hkind).1 hs
    · exact (hf.swift hn hkind).2 hs
  cases h with
  | walked | strayed | missing | hollow | instances | whole | retried | reconciled => simp at hm
  | ignored => exact .inl rfl
  | @reported key c notes hs hnotes =>
    obtain ⟨n, hn, hkind⟩ := hnode hs (.inl rfl)
    have hrow : r.afterAll now (.move key (Engine.reported c) :: notes) =
        r.update now key (Engine.reported c) := afterAll_notes hnotes
    rw [hrow] at ha ⊢
    refine .inr ⟨n, key, _, hn, hkind, hs, by simp, moved_stirs ha hs (by simp) hkind
      Run.instances_update fun hne => shown?_update_of_ne hne⟩
  | @resumed key x hs =>
    obtain ⟨n, hn, hkind⟩ := hnode hs (.inr rfl)
    refine .inr ⟨n, key, _, hn, hkind, hs, by simp, moved_stirs ha hs (by simp) hkind
      (Run.instances_update.trans Run.instances_update) fun hne => ?_⟩
    exact (shown?_update_of_ne hne).trans (shown?_update_of_ne hne)

lemma Handled.answer_fit (h : Handled p now r msg ws o)
    (hm : (∃ key c, msg = .callback key c) ∨ ∃ key x, msg = .resume key x) :
    Fit p (r.afterAll now ws) := by
  rcases h.answer_stirs hwf hso hf hm with heq | ⟨n, key, st, hn, _, hs, hne, hstirs⟩
  · rwa [heq]
  · exact begun_fit hwf hso hf hstirs hs hne hn

lemma Handled.command_waits (h : Handled p now r msg ws o) (hc : msg.isCommand = true) :
    Waits p now r ws fun q => Fit p q ∧ Poised p q o.messages := by
  have hfit := h.answer_fit hwf hso hf
  have hwalk : ∀ {q k}, Poised p q (Outcome.walk k).messages := .onward (by simp [Outcome.walk])
  cases h with
  | walked | strayed | missing | hollow | instances | whole => cases hc
  | ignored => exact ⟨.nil, fun _ => ⟨hf, .onward (by simp [Outcome.nothing])⟩⟩
  | @reported key c notes hs hnotes =>
    exact ⟨.of_no_claims (claims_reported key c hnotes),
      fun _ => ⟨hfit (.inl ⟨key, c, rfl⟩), hwalk⟩⟩
  | @resumed key x hs =>
    refine ⟨.of_claim (fun hp => absurd (hs.unique hp) (by simp)) ?_,
      fun _ => ⟨hfit (.inr ⟨key, x, rfl⟩), hwalk⟩⟩
    simp [claimsIn, Write.isClaim, NodeUpdate.finish, NodeUpdate.toStatus]
  | @retried key n s x ws o hs hst hn hin hw =>
    have hhas : r.Has key .failed := ⟨s, hs, hst⟩
    refine ⟨hw.gated fun hs hp => absurd (hs.unique hp) (by simp), fun _ => ⟨?_, ?_⟩⟩
    · exact begun_fit hwf hso hf (hw.stirs hwf hso hhas hn) hhas (by simp) hn
    · exact .onward fun _ hm => .inl (hw.only_walks hm)
  | @reconciled levels l hl hfront =>
    refine ⟨.nil, fun _ => ⟨hf, .onward fun _ hm => ?_⟩⟩
    obtain ⟨t, ht, rfl⟩ := List.mem_map.mp hm
    exact .inr ⟨t, rfl, ((hfront t).mp ht).2.2⟩

theorem Handled.waits (h : Handled p now r msg ws o) (hq : Poised p r (msg :: rest)) :
    Waits p now r ws fun q => Fit p q ∧ Poised p q (rest ++ o.messages) := by
  cases hq with
  | command hc => exact h.command_waits hwf hso hf hc
  | onward hall =>
    obtain ⟨hmsg, hrest⟩ := List.forall_mem_cons.mp hall
    have hwalked : ∀ {l : List String}, (∀ t ∈ l, r.Ready p t) →
        Poised p r (rest ++ (Outcome.fire l).messages) := by
      refine fun hl => .onward fun a ha => ?_
      rcases List.mem_append.mp ha with ha | ha
      · exact hrest a ha
      · obtain ⟨t, ht, rfl⟩ := List.mem_map.mp ha
        exact .inr ⟨t, rfl, hl t ht⟩
    rcases hmsg with ⟨k, rfl⟩ | ⟨t, rfl, hready⟩
    · cases h with
      | walked _ hl => exact ⟨.nil, fun _ => ⟨hf, hwalked fun t ht => ((hl t).mp ht).2⟩⟩
      | strayed => exact ⟨.nil, fun _ => ⟨hf, .onward (by simpa [Outcome.nothing] using hrest)⟩⟩
    · obtain ⟨hwaits, hwalks⟩ := h.fire_waits hwf hso hf hready
      refine hwaits.mono (And.imp_right fun hstay => .onward fun a ha => ?_)
      rcases List.mem_append.mp ha with ha | ha
      · exact (hrest a ha).imp_right (Exists.imp fun _ => And.imp_right fun hr => hstay hr)
      · exact .inl (hwalks a ha)

omit hwf hso hf in
lemma Poised.ready (hq : Poised p r (.fire t :: rest)) : r.Ready p t := by
  cases hq with
  | command hc => cases hc
  | onward hall =>
    rcases hall _ List.mem_cons_self with ⟨k, he⟩ | ⟨t', he, hr⟩
    · cases he
    · obtain rfl := Message.fire.inj he
      exact hr

theorem Faulted.waits (h : Faulted p now r msg ws) (hq : Poised p r (msg :: rest)) :
    Waits p now r ws (Fit p) := by
  cases h with
  | unwritten => exact ⟨.nil, fun _ => hf⟩
  | instances hn hi _ hfired =>
    obtain rfl := hwf.id_eq hn
    exact (hfired.waits hwf hso hf hn hq.ready hi fun _ hk => hk).mono And.left
  | whole hn hi hs =>
    have ht := hso.template_node (Plan.mem_nodeIds_iff.mpr ⟨_, hn⟩)
    exact hs.waits (fun _ _ => by rw [ht]; exact hq.ready) hf
  | resumed hs hrev =>
    refine ⟨.of_claim (fun hp => absurd (hs.unique hp) (by simp)) (by simp [claimsIn]), fun h => ?_⟩
    exact absurd (hrev.symm.trans h) (by simp)
  | retried hn hs => exact hs.waits (fun hst hp => absurd (hst.unique hp) (by simp)) hf

end Handled

theorem Advanced.waits (hwf : p.WellFormed) (hso : r.Sound p) (h : Advanced p now r queue ws)
    (hq : holdsRevision r.revision = true → Fit p r ∧ Poised p r queue) :
    Waits p now r ws (Fit p) := by
  -- A step that breaks off may leave a row that is not fit, but this row can no longer be read.
  induction h with
  | stopped => exact ⟨.nil, fun hrev => (hq hrev).1⟩
  | faulted hrev hm _ => exact hm.waits hwf hso (hq hrev).1 (hq hrev).2
  | next hrev hm hl _ ih =>
    obtain ⟨hf, hq⟩ := hq hrev
    obtain ⟨hgated, hleft⟩ := hm.waits hwf hso hf hq
    exact .append hgated (ih (hso.afterAll hwf.child_mem hl) hleft)

end Workflow.Engine
