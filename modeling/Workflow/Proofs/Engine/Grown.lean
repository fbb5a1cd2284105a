import Workflow.Proofs.Engine.Turns

/-! What walks and fires make of a run: keys that were begun before stay as they are, and a key that
is begun goes no further than its start. -/

namespace Workflow

namespace Run

def Begun (r : Run) (key : String) : Prop := ∃ st, st ≠ .pending ∧ r.Has key st

lemma Settled.begun {r : Run} {key : String} (h : r.Settled key) : r.Begun key :=
  h.elim (fun hc => ⟨_, by simp, hc⟩) fun hf => ⟨_, by simp, hf⟩

end Run

namespace Engine

open Run (Lawful)

structure Grows (p : Plan) (r r' : Run) (qs : List Request) : Prop where
  kept : ∀ {k v}, r.Begun k → r.shown? k = some v → r'.shown? k = some v
  stable : ∀ {k}, k ∈ Keyed.keys r.states →
    k ∈ Keyed.keys r'.states ∧ r'.template k = r.template k
  begun : ∀ {k n st}, ¬ r.Begun k → p.node? (r'.template k) = some n → r'.Has k st →
    st ≠ .pending → (n.kind = .worker → st = .running ∧ ∃ q ∈ qs, q.nodeKey = k) ∧
      (n.kind = .ux → st = .waitingForUser)
  asked : ∀ q ∈ qs, ¬ r.Begun q.nodeKey ∧ r'.Has q.nodeKey .running

variable {p : Plan} {now : Instant} {r r' r'' : Run} {n : PlanNode} {key k : String} {x : Json}
  {v : Shown} {st : Status} {ws : List Write} {o : Outcome} {qs qs' : List Request}
  {queue : List Message} {m : Message}

namespace Grows

lemma kept_has (h : Grows p r r' qs) (hst : st ≠ .pending) (hk : r.Has k st) : r'.Has k st := by
  obtain ⟨v, hv, rfl⟩ := Run.has_iff_shown.mp hk
  exact Run.has_of_shown? (h.kept ⟨_, hst, hk⟩ hv)

lemma kept_begun (h : Grows p r r' qs) (hk : r.Begun k) : r'.Begun k := by
  obtain ⟨st, hst, hk⟩ := hk
  exact ⟨st, hst, h.kept_has hst hk⟩

protected lemma refl : Grows p r r [] where
  kept _ hv := hv
  stable hk := ⟨hk, rfl⟩
  begun hk _ hst hne := absurd ⟨_, hne, hst⟩ hk
  asked := by simp

protected lemma trans (h : Grows p r r' qs) (h' : Grows p r' r'' qs') :
    Grows p r r'' (qs ++ qs') where
  kept hk hv := h'.kept (h.kept_begun hk) (h.kept hk hv)
  stable hk := by
    obtain ⟨hk', ht⟩ := h.stable hk
    obtain ⟨hk'', ht'⟩ := h'.stable hk'
    exact ⟨hk'', ht'.trans ht⟩
  begun {k n st} hk hn hst hne := by
    by_cases hk' : r'.Begun k
    · -- The key was begun on the way, and stayed as it was.
      obtain ⟨st', hst', hhas⟩ := hk'
      obtain rfl := (h'.kept_has hst' hhas).unique hst
      obtain ⟨s, hs, _⟩ := id hhas
      rw [(h'.stable (Run.mem_keys_of_state? hs)).2] at hn
      obtain ⟨hw, hu⟩ := h.begun hk hn hhas hne
      refine ⟨fun hkind => ?_, hu⟩
      obtain ⟨hrun, q, hq, hkey⟩ := hw hkind
      exact ⟨hrun, q, List.mem_append_left _ hq, hkey⟩
    · obtain ⟨hw, hu⟩ := h'.begun hk' hn hst hne
      refine ⟨fun hkind => ?_, hu⟩
      obtain ⟨hrun, q, hq, hkey⟩ := hw hkind
      exact ⟨hrun, q, List.mem_append_right _ hq, hkey⟩
  asked q hq := by
    rcases List.mem_append.mp hq with hq | hq
    · obtain ⟨hk, hrun⟩ := h.asked q hq
      exact ⟨hk, h'.kept_has (by simp) hrun⟩
    · obtain ⟨hk, hrun⟩ := h'.asked q hq
      exact ⟨fun hb => hk (h.kept_begun hb), hrun⟩

end Grows

lemma Worked.others (now : Instant) (h : Worked p r n key x ws o) (hk : k ≠ key) :
    (r.afterAll now ws).shown? k = r.shown? k ∨
      r.shown? k = none ∧ ∃ v, (r.afterAll now ws).shown? k = some v ∧ v.status = .pending := by
  cases h with
  | sent => exact .inl rfl
  | parked | unsplit | whole | rejected | uncollected | collected =>
    exact .inl (shown?_update_of_ne hk)
  | @split items =>
    change (Run.update now key _ _).shown? k = _ ∨
      _ ∧ ∃ v, (Run.update now key _ _).shown? k = _ ∧ _
    rw [shown?_update_of_ne hk, shown?_fanned]
    cases hr : r.shown? k with
    | some w => exact .inl rfl
    | none =>
      cases hf : Keyed.find? (spawnedStates (p.fannedOut n.id) items) k with
      | none => exact .inl rfl
      | some s =>
        obtain ⟨_, _, _, _, _, _, rfl⟩ := mem_spawnedStates.mp (Keyed.mem_of_find? hf)
        exact .inr ⟨rfl, _, rfl, rfl⟩

lemma Worked.started (now : Instant) (h : Worked p r n key x ws o) (hs : r.Has key .running) :
    (n.kind = .worker → (r.afterAll now ws).Has key .running ∧ ∃ q ∈ o.requests, q.nodeKey = key) ∧
      (n.kind = .ux → (r.afterAll now ws).Has key .waitingForUser) := by
  cases h with
  | sent hk _ hq => exact ⟨fun _ => ⟨hs, _, List.mem_singleton_self _, hq⟩, by simp [hk]⟩
  | parked hk =>
    obtain ⟨s, hs, _⟩ := hs
    exact ⟨by simp [hk], fun _ => (has_update hs rfl).mpr (by simp)⟩
  | unsplit hk | whole hk | rejected hk | split hk | uncollected hk | collected hk => simp [hk]

lemma Worked.requests_key (h : Worked p r n key x ws o) :
    ∀ q ∈ o.requests, q.nodeKey = key ∧ ws = [] := by
  cases h with
  | sent _ _ hq =>
    intro q hmem
    obtain rfl := List.mem_singleton.mp hmem
    exact ⟨hq, rfl⟩
  | parked | unsplit | whole | rejected | split | uncollected | collected =>
    simp [Outcome.nothing, Outcome.walk]

lemma Started.others {source : Status} (h : Started p now r n key x source ws o) (hk : k ≠ key) :
    (r.afterAll now ws).shown? k = r.shown? k ∨
      r.shown? k = none ∧ ∃ v, (r.afterAll now ws).shown? k = some v ∧ v.status = .pending := by
  cases h with
  | skipped => exact .inl rfl
  | worked hs hw =>
    have hclaim : (r.update now key (.toStatus .running)).shown? k = r.shown? k :=
      shown?_update_of_ne hk
    have hwork := hw.others now hk
    rwa [hclaim] at hwork

section Fired

variable (hwf : p.WellFormed) (hso : r.Sound p)
include hwf hso

lemma Started.grows (h : Started p now r n key x .pending ws o)
    (hn : p.node? (r.template key) = some n) : Grows p r (r.afterAll now ws) o.requests := by
  have ha := h.announces hwf hso hn
  have hothers := fun k => h.others (k := k)
  cases h with
  | skipped => exact .refl
  | @worked ws o hs hw =>
    have hrun := has_claimed now hs
    obtain ⟨u, hu, hpend⟩ := Run.has_iff_shown.mp hs
    have hfresh : ¬ r.Begun key := by
      rintro ⟨st, hst, hk⟩
      exact hst (hk.unique hs)
    refine ⟨fun {k v} hb hv => ?_, fun hk => ha.stable hk, fun {k node st} hb hnode hst hne => ?_,
      fun q hq => ?_⟩
    · have hk : k ≠ key := fun he => hfresh (he ▸ hb)
      rcases hothers _ hk with he | ⟨hnone, _⟩
      · exact he.trans hv
      · rw [hnone] at hv
        cases hv
    · by_cases hk : k = key
      · subst hk
        have hmem : k ∈ Keyed.keys r.states := Run.mem_keys_of_shown? hu
        rw [(ha.stable hmem).2, hn] at hnode
        obtain rfl := Option.some.inj hnode
        obtain ⟨hwork, hform⟩ := hw.started now hrun
        exact ⟨fun hkind => ⟨hst.unique (hwork hkind).1, (hwork hkind).2⟩,
          fun hkind => hst.unique (hform hkind)⟩
      · rcases hothers _ hk with he | ⟨_, w, hw, hp⟩
        · exact absurd ⟨st, hne, (Run.has_congr he).mp hst⟩ hb
        · exact absurd ((Run.status_of_shown? hw hst).symm.trans hp) hne
    · obtain ⟨hkey, rfl⟩ := hw.requests_key q hq
      rw [hkey]
      exact ⟨hfresh, hrun⟩

lemma FiredAll.grows {snap : Run} {mapping : Mapping} {l : List String} {t : String}
    (h : FiredAll p now snap n mapping r l ws o) (hn : p.node? t = some n)
    (hl : ∀ k ∈ l, k ∈ Keyed.keys r.states ∧ r.template k = t) :
    Grows p r (r.afterAll now ws) o.requests := by
  induction h with
  | nil => exact .refl
  | passed _ _ ih => exact ih hso (List.forall_mem_cons.mp hl).2
  | @fired r key rest s input ws ws' o o' hs hp hi hw h ih =>
    obtain ⟨⟨_, ht⟩, hrest⟩ := List.forall_mem_cons.mp hl
    have hn' := ht ▸ hn
    have hlaw : Lawful p now r ws := hw.lawful hn' rfl
    rw [Run.afterAll_append]
    exact (hw.grows hwf hso hn').trans (ih (hso.afterAll hwf.child_mem hlaw)
      (hso.forall_afterAll hwf.child_mem hlaw hrest))

lemma Handled.grows (h : Handled p now r m ws o) (hm : m.isCommand = false) :
    Grows p r (r.afterAll now ws) o.requests := by
  cases h with
  | walked | strayed | missing | hollow => exact .refl
  | instances hn hi hne hmap hf =>
    exact hf.grows hwf hso hn fun k hk => hso.known_instanceText hk
  | whole hn hi hin hs =>
    refine hs.grows hwf hso ?_
    rwa [hso.template_node (Plan.mem_nodeIds_iff.mpr ⟨_, hn⟩)]
  | ignored | reported | resumed | retried | reconciled => cases hm

omit hwf hso in
lemma Handled.no_command (h : Handled p now r m ws o) : ∀ a ∈ o.messages, a.isCommand = false := by
  have hwalks : (∀ a ∈ o.messages, ∃ k, a = .walk k) → ∀ a ∈ o.messages, a.isCommand = false := by
    intro h a ha
    obtain ⟨k, rfl⟩ := h a ha
    rfl
  have hfires : ∀ (l : List String), ∀ a ∈ (Outcome.fire l).messages, a.isCommand = false := by
    intro l a ha
    obtain ⟨k, _, rfl⟩ := List.mem_map.mp ha
    rfl
  cases h with
  | walked | reconciled => exact hfires _
  | strayed | missing | ignored => simp [Outcome.nothing]
  | hollow | reported | resumed => simp [Outcome.walk, Message.isCommand]
  | instances hn hi hne hmap hf => exact hwalks fun _ => hf.only_walks
  | whole hn hi hin hs => exact hwalks fun _ => hs.only_walks
  | retried _ _ _ _ hs => exact hwalks fun _ => hs.only_walks

lemma Drained.grows (h : Drained p now r queue ws qs) (hq : ∀ a ∈ queue, a.isCommand = false) :
    Grows p r (r.afterAll now ws) qs := by
  induction h with
  | done => exact .refl
  | @next r m rest ws o xs qs hm hl hd ih =>
    obtain ⟨hfirst, hrest⟩ := List.forall_mem_cons.mp hq
    rw [Run.afterAll_append]
    refine (hm.grows hwf hso hfirst).trans (ih (hso.afterAll hwf.child_mem hl) fun a ha => ?_)
    rcases List.mem_append.mp ha with ha | ha
    · exact hrest a ha
    · exact hm.no_command a ha

end Fired

end Engine

end Workflow
