import Workflow.Proofs.Engine.Handle

/-! What a message changes is announced: a walk follows for every key that comes to be settled, and
for every key that fans nodes out. -/

namespace Workflow.Engine

open Run (Lawful Allowed)

structure Announces (p : Plan) (r r' : Run) (out : List Message) : Prop where
  settled : ∀ {key st}, r'.Has key st → st.isTerminal = true → .walk key ∈ out ∨ r.Has key st
  fanned : ∀ {t}, r'.hasInstances t = true → r.hasInstances t = true ∨
    ∃ key ∈ Keyed.keys r'.states, .walk key ∈ out ∧ r'.template key ∈ p.parents t
  pending : ∀ {key}, r'.Has key .pending → r.Has key .pending ∨ key ∉ Keyed.keys r.states
  kept : ∀ {t is}, Keyed.find? r.instances t = some is → Keyed.find? r'.instances t = some is
  stable : ∀ {key}, key ∈ Keyed.keys r.states →
    key ∈ Keyed.keys r'.states ∧ r'.template key = r.template key

variable {p : Plan} {now : Instant} {r r' r'' : Run} {n : PlanNode} {key id : String} {input : Json}
  {source : Status} {ws : List Write} {o : Outcome} {out out' : List Message} {s : NodeState}
  {u : NodeUpdate}

namespace Announces

protected lemma refl : Announces p r r out :=
  ⟨fun h _ => .inr h, .inl, .inl, id, fun h => ⟨h, rfl⟩⟩

protected lemma trans (h : Announces p r r' out) (h' : Announces p r' r'' out') :
    Announces p r r'' (out ++ out') where
  settled hk ht := by
    rcases h'.settled hk ht with hw | hk'
    · exact .inl (List.mem_append_right _ hw)
    · exact (h.settled hk' ht).imp_left (List.mem_append_left _)
  fanned hi := by
    rcases h'.fanned hi with hi' | ⟨key, hmem, hw, ht⟩
    · refine (h.fanned hi').imp_right ?_
      rintro ⟨key, hmem, hw, ht⟩
      obtain ⟨hmem', ht'⟩ := h'.stable hmem
      exact ⟨key, hmem', List.mem_append_left _ hw, ht' ▸ ht⟩
    · exact .inr ⟨key, hmem, List.mem_append_right _ hw, ht⟩
  pending hk := by
    rcases h'.pending hk with hk' | hk'
    · exact h.pending hk'
    · exact .inr fun hmem => hk' (h.stable hmem).1
  kept hf := h'.kept (h.kept hf)
  stable hmem := by
    obtain ⟨hmem', ht⟩ := h.stable hmem
    obtain ⟨hmem'', ht'⟩ := h'.stable hmem'
    exact ⟨hmem'', ht'.trans ht⟩

lemma hasInstances (h : Announces p r r' out) {t : String} (hi : r.hasInstances t = true) :
    r'.hasInstances t = true := by
  obtain ⟨is, hf⟩ := Run.hasInstances_iff.mp hi
  exact Run.hasInstances_iff.mpr ⟨is, h.kept hf⟩

lemma instanceTexts (h : Announces p r r' out) {t : String} (hi : r.hasInstances t = true) :
    instanceTexts r' t = instanceTexts r t := by
  obtain ⟨is, hf⟩ := Run.hasInstances_iff.mp hi
  simp [Engine.instanceTexts, Run.instanceKeys, hf, h.kept hf]

lemma hollow (h : Announces p r r' out) {t : String} (hh : r.Hollow t) : r'.Hollow t := h.kept hh

end Announces

lemma has_update {k : String} {st t : Status} (hs : r.state? key = some s)
    (hu : u.status = some t) :
    (r.update now key u).Has k st ↔ if key = k then t = st else r.Has k st := by
  have hstatus : (u.apply now s).status = t := by simp [NodeUpdate.apply, hu]
  rw [Run.update_eq hs]
  split
  · rename_i he
    rw [Run.has_iff (s := u.apply now s) (by rw [Run.state?_moved, if_pos he]), hstatus]
  · rename_i he
    rw [Run.Has, Run.Has, Run.state?_moved, if_neg he]

lemma announces_update {t : Status} (hs : r.state? key = some s) (hu : u.status = some t)
    (hp : t ≠ .pending) (hw : t.isTerminal = true → .walk key ∈ out) :
    Announces p r (r.update now key u) out where
  settled {k st} hk ht := by
    rw [has_update hs hu] at hk
    split at hk
    · rename_i he
      exact .inl (he ▸ hw (hk ▸ ht))
    · exact .inr hk
  fanned hi := by
    rw [Run.hasInstances, Run.instances_update] at hi
    exact .inl hi
  pending {k} hk := by
    rw [has_update hs hu] at hk
    split at hk
    · exact absurd hk hp
    · exact .inl hk
  kept hf := by rwa [Run.instances_update]
  stable hk := by
    refine ⟨?_, Run.Sound.template_update⟩
    rwa [Run.update_eq hs, Run.keys_moved hs]

lemma has_fanned {targets : List String} {items : List Json} {k : String} {st : Status} :
    (r.fanned targets items).Has k st ↔
      r.Has k st ∨ k ∉ Keyed.keys r.states ∧ k ∈ Keyed.keys (spawnedStates targets items) ∧
        st = .pending := by
  rw [Run.Has, Run.state?_fanned]
  cases hs : r.state? k with
  | some s =>
    have hk := Run.mem_keys_of_state? hs
    simp [Run.Has, hs, hk]
  | none =>
    have hk : k ∉ Keyed.keys r.states := Keyed.find?_eq_none_iff.mp hs
    simp only [Option.none_or, Run.Has, hs, hk]
    constructor
    · rintro ⟨s, hf, rfl⟩
      obtain ⟨_, _, _, _, _, _, rfl⟩ := mem_spawnedStates.mp (Keyed.mem_of_find? hf)
      exact .inr ⟨not_false, Keyed.mem_keys_of_find? hf, rfl⟩
    · rintro (⟨_, h, _⟩ | ⟨_, hmem, rfl⟩)
      · cases h
      · obtain ⟨s, hf⟩ := Keyed.exists_of_mem_keys hmem
        obtain ⟨_, _, _, _, _, _, rfl⟩ := mem_spawnedStates.mp (Keyed.mem_of_find? hf)
        exact ⟨_, hf, rfl⟩

section Fanned

variable {targets : List String} {items : List Json} (hwf : p.WellFormed) (hso : r.Sound p)
  (hn : p.node? (r.template key) = some n) (ht : ∀ t ∈ targets, t ∈ p.children n.id)
  (hf : r.Spawnable targets items)
include hwf hso hn ht hf

lemma announces_fanned (hs : r.state? key = some s) (hw : .walk key ∈ out) :
    Announces p r (r.fanned targets items) out where
  settled hk hterm := by
    rcases has_fanned.mp hk with hk | ⟨_, _, rfl⟩
    · exact .inr hk
    · cases hterm
  fanned {t} hi := by
    obtain ⟨is, hfind⟩ := Run.hasInstances_iff.mp hi
    rw [Run.find?_instances_fanned hf] at hfind
    split at hfind
    · rename_i htm
      have hk := Run.mem_keys_of_state? hs
      refine .inr ⟨key, ?_, hw, ?_⟩
      · rw [Run.keys_fanned, List.mem_append]
        exact .inl hk
      · rw [hso.template_fanned (fun u hu => hwf.child_mem (ht u hu)) hf hk, hwf.parents_iff,
          ← hwf.id_eq hn]
        exact ht t htm
    · exact .inl (Run.hasInstances_iff.mpr ⟨is, hfind⟩)
  pending hk := by
    rcases has_fanned.mp hk with hk | ⟨hk, _, _⟩
    · exact .inl hk
    · exact .inr hk
  kept {t is} hfind := by
    rw [Run.find?_instances_fanned hf, if_neg]
    · exact hfind
    · intro htm
      rw [Run.hasInstances_eq_false.mp (hf.whole t htm)] at hfind
      cases hfind
  stable hk := by
    refine ⟨?_, hso.template_fanned (fun u hu => hwf.child_mem (ht u hu)) hf hk⟩
    rw [Run.keys_fanned, List.mem_append]
    exact .inl hk

end Fanned

lemma Announces.mono (h : Announces p r r' out) (hsub : out ⊆ out') : Announces p r r' out' where
  settled hk ht := (h.settled hk ht).imp_left fun hw => hsub hw
  fanned hi := (h.fanned hi).imp_right fun ⟨key, hmem, hw, ht⟩ => ⟨key, hmem, hsub hw, ht⟩
  pending := h.pending
  kept := h.kept
  stable := h.stable

section Fired

variable (hwf : p.WellFormed) (hso : r.Sound p)
include hwf hso

lemma Worked.announces (h : Worked p r n key input ws o) (hs : r.Has key .running)
    (hn : p.node? (r.template key) = some n) : Announces p r (r.afterAll now ws) o.messages := by
  obtain ⟨s, hs, hr⟩ := hs
  cases h with
  | sent => exact .refl
  | parked => exact announces_update hs rfl (by simp) (by simp [Status.isTerminal])
  | unsplit | rejected | uncollected =>
    exact announces_update hs rfl (by simp) (by simp [Outcome.walk])
  | whole | collected => exact announces_update hs rfl (by simp) (by simp [Outcome.walk])
  | split hk hi ht hsp =>
    have hwalk : Message.walk key ∈ [Message.walk key] := List.mem_singleton_self _
    have hfan := announces_fanned hwf hso hn (fun t ht => (Plan.mem_fannedOut.mp ht).1) hsp hs hwalk
    exact (hfan.trans (announces_update (Run.state?_fanned_of_some _ _ hs) rfl (by simp)
      fun _ => hwalk)).mono (by simp [Outcome.walk])

lemma Started.announces (h : Started p now r n key input source ws o)
    (hn : p.node? (r.template key) = some n) : Announces p r (r.afterAll now ws) o.messages := by
  cases h with
  | skipped => exact .refl
  | worked hs hw =>
    have hrun := has_claimed now hs
    obtain ⟨s, hs, _⟩ := hs
    have hclaim : Announces p r (r.update now key (.toStatus .running)) [] :=
      announces_update hs rfl (by simp) (by simp [Status.isTerminal])
    exact hclaim.trans (hw.announces hwf hso.update hrun (by simpa using hn))

lemma FiredAll.announces {snap : Run} {mapping : Mapping} {l : List String} {t : String}
    (h : FiredAll p now snap n mapping r l ws o) (hn : p.node? t = some n)
    (hl : ∀ k ∈ l, k ∈ Keyed.keys r.states ∧ r.template k = t) :
    Announces p r (r.afterAll now ws) o.messages := by
  induction h with
  | nil => exact .refl
  | passed _ _ ih => exact ih hso (List.forall_mem_cons.mp hl).2
  | fired hs hp hi hw _ ih =>
    obtain ⟨⟨hmem, ht⟩, hrest⟩ := List.forall_mem_cons.mp hl
    have hn' := ht ▸ hn
    have hlaw := hw.lawful hn' rfl
    rw [Run.afterAll_append]
    exact (hw.announces hwf hso hn').trans (ih (hso.afterAll hwf.child_mem hlaw)
      (hso.forall_afterAll hwf.child_mem hlaw hrest))

end Fired

lemma afterAll_notes (h : ∀ x ∈ ws, ∃ e : Event, x = .note e ∧ e.kind = .entityMoved) :
    r.afterAll now ws = r := by
  induction ws with
  | nil => rfl
  | cons x rest ih =>
    obtain ⟨⟨e, rfl, _⟩, hrest⟩ := List.forall_mem_cons.mp h
    exact ih hrest

lemma Handled.announces {m : Message} (hwf : p.WellFormed) (hso : r.Sound p)
    (h : Handled p now r m ws o) : Announces p r (r.afterAll now ws) o.messages := by
  cases h with
  | walked | strayed | missing | hollow | ignored | reconciled => exact .refl
  | instances hn hi hne hm hf =>
    exact hf.announces hwf hso hn fun k hk => hso.known_instanceText hk
  | whole hn hi hin hs =>
    refine hs.announces hwf hso ?_
    rwa [hso.template_node (Plan.mem_nodeIds_iff.mpr ⟨_, hn⟩)]
  | @reported key c notes hs hnotes =>
    obtain ⟨s, hs, _⟩ := hs
    have hstatus := (reported_status c).1
    rw [Run.afterAll_cons, afterAll_notes hnotes]
    refine announces_update hs hstatus ?_ (by simp [Outcome.walk])
    unfold Engine.reported
    cases c.result <;> simp [NodeUpdate.status, NodeUpdate.finish, NodeUpdate.fail]
  | resumed hs =>
    obtain ⟨s, hs, hr⟩ := has_claimed now hs
    obtain ⟨s₀, hs₀, _⟩ := ‹r.Has _ _›
    have hclaim : Announces p r (r.update now _ (.toStatus .running)) [] :=
      announces_update hs₀ rfl (by simp) (by simp [Status.isTerminal])
    exact hclaim.trans (announces_update hs rfl (by simp) (by simp))
  | retried hs hst hn hin hw => exact hw.announces hwf hso hn

lemma Announces.not_pending (h : Announces p r r' out) (hk : key ∈ Keyed.keys r.states)
    (hp : ¬ r.Has key .pending) : ¬ r'.Has key .pending := by
  intro hp'
  rcases h.pending hp' with hr | hr
  · exact hp hr
  · exact hr hk

lemma Started.not_pending (hwf : p.WellFormed) (hso : r.Sound p)
    (h : Started p now r n key input .pending ws o) (hn : p.node? (r.template key) = some n) :
    ¬ (r.afterAll now ws).Has key .pending := by
  cases h with
  | skipped hs => exact hs
  | worked hs hw =>
    have hrun := has_claimed now hs
    refine (hw.announces hwf hso.update hrun (by simpa using hn)).not_pending ?_ ?_
    · obtain ⟨s, hs, _⟩ := hrun
      exact Run.mem_keys_of_state? hs
    · exact fun hp => absurd (hrun.unique hp) (by simp)

lemma FiredAll.not_pending {snap : Run} {mapping : Mapping} {l : List String} {t : String}
    (hwf : p.WellFormed) (hso : r.Sound p) (h : FiredAll p now snap n mapping r l ws o)
    (hn : p.node? t = some n) (hl : ∀ k ∈ l, k ∈ Keyed.keys r.states ∧ r.template k = t)
    (hsnap : ∀ k ∈ l, r.Has k .pending → snap.Has k .pending) :
    ∀ k ∈ l, ¬ (r.afterAll now ws).Has k .pending := by
  induction h with
  | nil => simp
  | passed hs h ih =>
    obtain ⟨⟨hk, _⟩, hrest⟩ := List.forall_mem_cons.mp hl
    obtain ⟨hs', hsnap'⟩ := List.forall_mem_cons.mp hsnap
    exact List.forall_mem_cons.mpr ⟨(h.announces hwf hso hn hrest).not_pending hk
      (fun hp => hs (hs' hp)), ih hso hrest hsnap'⟩
  | @fired r key rest s input ws ws' o o' hs hp hi hw h ih =>
    obtain ⟨⟨hk, ht⟩, hrest⟩ := List.forall_mem_cons.mp hl
    have hn' := ht ▸ hn
    have ha := hw.announces hwf hso hn'
    have hl : Run.Lawful p now r ws := hw.lawful hn' rfl
    have hso' := hso.afterAll hwf.child_mem hl
    have hrest' := hso.forall_afterAll hwf.child_mem hl hrest
    rw [Run.afterAll_append]
    refine List.forall_mem_cons.mpr ⟨?_, ih hso' hrest' fun k hk hp => ?_⟩
    · exact (h.announces hwf hso' hn hrest').not_pending (ha.stable hk).1
        (hw.not_pending hwf hso hn')
    · exact hsnap k (List.mem_cons_of_mem _ hk)
        ((ha.pending hp).resolve_right fun hno => hno (hrest k hk).1)

end Workflow.Engine
