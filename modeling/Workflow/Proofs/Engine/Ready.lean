import Workflow.Engine.Advance
import Workflow.Proofs.Plan.Compiled
import Workflow.Proofs.Run.Sound

/-! Which nodes are open and which are ready, on a row that agrees with its plan. -/

namespace Workflow

lemma mapM_of_ok {α β ε : Type} {f : α → Except ε β} {g : α → β} {l : List α}
    (h : ∀ a ∈ l, f a = .ok (g a)) : l.mapM f = .ok (l.map g) := by
  induction l with
  | nil => rfl
  | cons a l ih =>
    simp only [List.mapM_cons, h a (by simp), ih fun b hb => h b (by simp [hb])]
    rfl

namespace Run

variable {p : Plan} {r : Run} {key n source : String} {s : NodeState} {st : Status}

def Has (r : Run) (key : String) (st : Status) : Prop := ∃ s, r.state? key = some s ∧ s.status = st

def Settled (r : Run) (key : String) : Prop := r.Has key .completed ∨ r.Has key .failed

def keysOf (r : Run) (n : String) : List String :=
  if r.hasInstances n then Engine.instanceTexts r n else [n]

/-- The node was fanned out over nothing. -/
def Hollow (r : Run) (n : String) : Prop := Keyed.find? r.instances n = some []

def Done (p : Plan) (r : Run) (n source : String) : Prop :=
  if r.hasInstances source then ∀ k ∈ Engine.instanceTexts r source, r.Settled k
  else r.Has source .completed ∨ p.isCollector n = true ∧ r.Has source .failed

def Ready (p : Plan) (r : Run) (n : String) : Prop := ∀ s ∈ p.parents n, r.Done p n s

def Open (r : Run) (n : String) : Prop := ∃ k ∈ r.keysOf n, r.Has k .pending

instance : Decidable (r.Has key st) :=
  decidable_of_iff (((r.state? key).any fun s => s.status = st) = true)
    (by simp [Has, Option.any_eq_true])

instance : Decidable (r.Settled key) :=
  inferInstanceAs (Decidable (r.Has key .completed ∨ r.Has key .failed))

instance : Decidable (r.Done p n source) :=
  inferInstanceAs (Decidable (if r.hasInstances source then
    ∀ k ∈ Engine.instanceTexts r source, r.Settled k
  else r.Has source .completed ∨ p.isCollector n = true ∧ r.Has source .failed))

instance : Decidable (r.Ready p n) := inferInstanceAs (Decidable (∀ s ∈ p.parents n, r.Done p n s))

instance : Decidable (r.Open n) :=
  inferInstanceAs (Decidable (∃ k ∈ r.keysOf n, r.Has k .pending))

instance : Decidable (r.Hollow n) :=
  inferInstanceAs (Decidable (Keyed.find? r.instances n = some []))

lemma has_iff (h : r.state? key = some s) : r.Has key st ↔ s.status = st := by
  simp [Has, h]

lemma Has.unique {st' : Status} (h : r.Has key st) (h' : r.Has key st') : st = st' := by
  obtain ⟨s, hs, rfl⟩ := h
  exact (has_iff hs).mp h'

lemma Has.not_settled (h : r.Has key st) (hst : st.isTerminal = false) :
    ¬ r.Settled key := by
  rintro (hs | hs)
  · rw [h.unique hs] at hst
    cases hst
  · rw [h.unique hs] at hst
    cases hst

lemma settled_iff (h : r.state? key = some s) : r.Settled key ↔ s.status.isTerminal = true := by
  rw [Settled, has_iff h, has_iff h]
  cases s.status <;> simp [Status.isTerminal]

lemma Done.settled (h : r.Done p n source) (hk : key ∈ r.keysOf source) : r.Settled key := by
  by_cases hi : r.hasInstances source = true
  · rw [Done, if_pos hi] at h
    rw [keysOf, if_pos hi] at hk
    exact h key hk
  · rw [Done, if_neg hi] at h
    rw [keysOf, if_neg hi, List.mem_singleton] at hk
    exact hk ▸ h.imp_right And.right

lemma Done.completed (h : r.Done p n source) (hi : r.hasInstances source = false)
    (hn : p.isCollector n = false) : r.Has source .completed := by
  rw [Done, if_neg (by simp [hi])] at h
  refine h.resolve_right fun hc => ?_
  rw [hn] at hc
  cases hc.1

lemma hasInstances_of_hollow (h : r.Hollow n) : r.hasInstances n = true :=
  hasInstances_iff.mpr ⟨[], h⟩

lemma instanceTexts_of_hollow (h : r.Hollow n) : Engine.instanceTexts r n = [] := by
  rw [instanceTexts_of_find? (n := 0) h]
  rfl

lemma not_open_of_hollow (h : r.Hollow n) : ¬ r.Open n := by
  rintro ⟨k, hk, _⟩
  rw [keysOf, if_pos (hasInstances_of_hollow h), instanceTexts_of_hollow h] at hk
  cases hk

lemma allTerminal_ok {l : List String} (h : ∀ k ∈ l, ∃ s, r.state? k = some s) :
    ∃ b, r.allTerminal l = .ok b ∧ (b = true ↔ ∀ k ∈ l, r.Settled k) := by
  induction l with
  | nil => exact ⟨true, rfl, by simp⟩
  | cons k rest ih =>
    obtain ⟨s, hs⟩ := h k (by simp)
    obtain ⟨b, hb, hiff⟩ := ih fun k' hk' => h k' (by simp [hk'])
    simp only [allTerminal, stateAt_of_state? hs, bind, Except.bind, List.forall_mem_cons,
      settled_iff hs, ← hiff]
    by_cases ht : s.status.isTerminal = true
    · exact ⟨b, by simpa [ht] using hb, by simp [ht]⟩
    · exact ⟨false, by simp [ht, pure, Except.pure], by simp [ht]⟩

namespace Sound

variable (h : r.Sound p)
include h

lemma keysOf_state (hn : n ∈ p.nodeIds) (hk : key ∈ r.keysOf n) : ∃ s, r.state? key = some s := by
  rw [keysOf] at hk
  split at hk
  · exact h.text_state hk
  · exact List.mem_singleton.mp hk ▸ h.node_state hn

lemma template_keysOf (hn : n ∈ p.nodeIds) (hk : key ∈ r.keysOf n) : r.template key = n := by
  rw [keysOf] at hk
  split at hk
  · exact h.template_instanceText hk
  · rw [List.mem_singleton.mp hk]
    exact h.template_node hn

lemma hasInstances_cases (n : String) :
    r.hasInstances n = false ∨ r.Hollow n ∨
      ∃ m, Keyed.find? r.instances n = some (indices (m + 1)) := by
  cases hf : Keyed.find? r.instances n with
  | none => exact .inl (hasInstances_eq_false.mpr hf)
  | some is =>
    obtain ⟨_, m, rfl⟩ := h.counted hf
    cases m with
    | zero => exact .inr (.inl hf)
    | succ m => exact .inr (.inr ⟨m, rfl⟩)

lemma exists_instanceText (hi : r.hasInstances n = true) (hh : ¬ r.Hollow n) :
    ∃ k, k ∈ Engine.instanceTexts r n := by
  rcases h.hasInstances_cases n with hf | hh' | ⟨m, hm⟩
  · simp [hf] at hi
  · exact absurd hh' hh
  · rw [instanceTexts_of_find? hm]
    exact ⟨_, List.mem_map.mpr ⟨0, by simp, rfl⟩⟩

lemma instanceText_ne (hk : key ∈ Engine.instanceTexts r n) : key ∉ p.nodeIds := by
  obtain ⟨k, hreg, _, rfl⟩ := mem_instanceTexts.mp hk
  exact h.instance_ne hreg

lemma mem_instanceTexts_of_template (hk : key ∈ Keyed.keys r.states) (ht : r.template key = n)
    (hne : key ∉ p.nodeIds) : key ∈ Engine.instanceTexts r n := by
  obtain ⟨k, hreg, rfl⟩ := (h.key_cases hk).resolve_left hne
  exact mem_instanceTexts.mpr ⟨k, hreg, (template_text h.instances_nodup hreg).symm.trans ht, rfl⟩

omit h in
lemma hasInstances_of_mem (hk : key ∈ Engine.instanceTexts r n) : r.hasInstances n = true := by
  obtain ⟨k, hreg, rfl, _⟩ := mem_instanceTexts.mp hk
  obtain ⟨is, hf, _⟩ := registered_iff.mp hreg
  exact hasInstances_iff.mpr ⟨is, hf⟩

lemma hollow_of_instanceKeys (hi : r.hasInstances n = true) (he : r.instanceKeys n = []) :
    r.Hollow n := by
  rcases h.hasInstances_cases n with hf | hh | ⟨m, hm⟩
  · simp [hf] at hi
  · exact hh
  · simp [instanceKeys_of_find? hm] at he

lemma mem_effectiveKeys : key ∈ r.effectiveKeys ↔ ∃ n ∈ p.nodeIds, key ∈ r.keysOf n := by
  have hall : ∀ k, r.allInstanceTexts.contains k = true ↔ ∃ i, r.Registered i ∧ i.text = k :=
    fun k => List.contains_iff_mem.trans mem_allInstanceTexts
  simp only [effectiveKeys, List.mem_flatMap]
  constructor
  · rintro ⟨k, hk, hmem⟩
    split at hmem
    · cases hmem
    · rename_i hc
      rw [hall] at hc
      have hn : k ∈ p.nodeIds := (h.key_cases hk).resolve_right hc
      refine ⟨k, hn, ?_⟩
      rw [keysOf]
      split <;> simp_all [Engine.instanceTexts]
  · rintro ⟨n, hn, hk⟩
    refine ⟨n, h.node_mem hn, ?_⟩
    have hc : ¬ r.allInstanceTexts.contains n = true := by
      rw [hall]
      rintro ⟨i, hi, rfl⟩
      exact h.instance_ne hi hn
    rw [if_neg hc]
    rw [keysOf] at hk
    split <;> simp_all [Engine.instanceTexts]

lemma isFinished_ok : ∃ b, r.isFinished = .ok b ∧
    (b = true ↔ ∀ n ∈ p.nodeIds, ∀ k ∈ r.keysOf n, r.Settled k) := by
  obtain ⟨b, hb, hiff⟩ := allTerminal_ok (r := r) (l := r.effectiveKeys) fun k hk => by
    obtain ⟨n, hn, hk⟩ := h.mem_effectiveKeys.mp hk
    exact h.keysOf_state hn hk
  refine ⟨b, hb, hiff.trans ?_⟩
  simp only [h.mem_effectiveKeys]
  exact ⟨fun hall n hn k hk => hall k ⟨n, hn, hk⟩, fun hall k ⟨n, hn, hk⟩ => hall n hn k hk⟩

end Sound

end Run

namespace Engine

open Run (Done Ready Open)

variable {p : Plan} {r : Run} {n s : String} (h : r.Sound p)
include h

lemma isSourceDone_ok :
    ∃ b, isSourceDone r s (p.isCollector n) = .ok b ∧ (b = true ↔ r.Done p n s) := by
  unfold isSourceDone Done
  by_cases hi : r.hasInstances s = true
  · rw [if_pos hi, if_pos hi]
    obtain ⟨b, hb, hiff⟩ := Run.allTerminal_ok fun k hk => h.text_state (t := s) hk
    exact ⟨b, by rw [hb]; rfl, hiff⟩
  · rw [if_neg hi, if_neg hi]
    cases hs : r.state? s with
    | none => exact ⟨false, rfl, by simp [Run.Has, hs]⟩
    | some st =>
      refine ⟨_, rfl, ?_⟩
      simp [Run.has_iff hs]

lemma isReady_ok : ∃ b, isReady p r n = .ok b ∧ (b = true ↔ r.Ready p n) := by
  change ∃ b, allSourcesDone r (p.isCollector n) (p.parents n) = .ok b ∧ _
  unfold Ready
  induction p.parents n with
  | nil => exact ⟨true, rfl, by simp⟩
  | cons s rest ih =>
    obtain ⟨b, hb, hiff⟩ := isSourceDone_ok h (n := n) (s := s)
    obtain ⟨c, hc, hrest⟩ := ih
    simp only [allSourcesDone, hb, bind, Except.bind, List.forall_mem_cons, ← hiff, ← hrest]
    cases b with
    | true => exact ⟨c, by simpa using hc, by simp⟩
    | false => exact ⟨false, rfl, by simp⟩

lemma readyAmong_ok (l : List String) :
    ∃ l', readyAmong p r l = .ok l' ∧ ∀ n, n ∈ l' ↔ n ∈ l ∧ r.Ready p n := by
  induction l with
  | nil => exact ⟨[], rfl, by simp⟩
  | cons m rest ih =>
    obtain ⟨b, hb, hiff⟩ := isReady_ok h (n := m)
    obtain ⟨l', hl', hrest⟩ := ih
    refine ⟨if b = true then m :: l' else l', ?_, ?_⟩
    · simp [readyAmong, hb, hl', bind, Except.bind, pure, Except.pure]
    · intro n
      by_cases hbt : b = true
      · simp only [hbt, ↓reduceIte, List.mem_cons, hrest]
        constructor
        · rintro (rfl | ⟨hn, hr⟩)
          · exact ⟨.inl rfl, hiff.mp hbt⟩
          · exact ⟨.inr hn, hr⟩
        · rintro ⟨rfl | hn, hr⟩
          · exact .inl rfl
          · exact .inr ⟨hn, hr⟩
      · simp only [hbt, Bool.false_eq_true, ↓reduceIte, List.mem_cons, hrest]
        constructor
        · rintro ⟨hn, hr⟩
          exact ⟨.inr hn, hr⟩
        · rintro ⟨rfl | hn, hr⟩
          · exact absurd (hiff.mpr hr) hbt
          · exact ⟨hn, hr⟩

omit h in
lemma anyPending_ok {l : List String} (hl : ∀ k ∈ l, ∃ s, r.state? k = some s) :
    ∃ b, anyPending r l = .ok b ∧ (b = true ↔ ∃ k ∈ l, r.Has k .pending) := by
  induction l with
  | nil => exact ⟨false, rfl, by simp⟩
  | cons k rest ih =>
    obtain ⟨st, hst⟩ := hl k (by simp)
    obtain ⟨b, hb, hiff⟩ := ih fun k' hk' => hl k' (by simp [hk'])
    simp only [anyPending, Run.stateAt_of_state? hst, List.exists_mem_cons_iff, Run.has_iff hst,
      ← hiff]
    by_cases hp : st.status = .pending
    · exact ⟨true, by simp [hp, bind, Except.bind, Failure.ofMissing, Except.mapError, pure,
        Except.pure], by simp [hp]⟩
    · exact ⟨b, by simpa [hp, bind, Except.bind, Failure.ofMissing, Except.mapError] using hb,
        by simp [hp]⟩

lemma isOpen_ok : ∃ b, isOpen r n = .ok b ∧ (b = true ↔ r.Open n) := by
  unfold isOpen Open Run.keysOf
  by_cases hi : r.hasInstances n = true
  · rw [if_pos hi, if_pos hi]
    exact anyPending_ok fun k hk => h.text_state (t := n) hk
  · rw [if_neg hi, if_neg hi]
    refine ⟨_, rfl, ?_⟩
    cases hs : r.state? n <;> simp [Run.Has, hs]

lemma frontier_ok (l : List String) :
    ∃ l', frontier p r l = .ok l' ∧ ∀ n, n ∈ l' ↔ n ∈ l ∧ r.Open n ∧ r.Ready p n := by
  induction l with
  | nil => exact ⟨[], rfl, by simp⟩
  | cons m rest ih =>
    obtain ⟨o, ho, hopen⟩ := isOpen_ok h (n := m)
    obtain ⟨b, hb, hready⟩ := isReady_ok h (n := m)
    obtain ⟨l', hl', hrest⟩ := ih
    refine ⟨if (o && b) = true then m :: l' else l', ?_, ?_⟩
    · cases o <;> simp [frontier, ho, hb, hl', bind, Except.bind, pure, Except.pure]
    · intro n
      have hm : (o && b) = true ↔ r.Open m ∧ r.Ready p m := by rw [Bool.and_eq_true, hopen, hready]
      by_cases hob : (o && b) = true
      · simp only [hob, ↓reduceIte, List.mem_cons, hrest]
        constructor
        · rintro (rfl | ⟨hn, hr⟩)
          · exact ⟨.inl rfl, hm.mp hob⟩
          · exact ⟨.inr hn, hr⟩
        · rintro ⟨rfl | hn, hr⟩
          · exact .inl rfl
          · exact .inr ⟨hn, hr⟩
      · simp only [hob, Bool.false_eq_true, ↓reduceIte, List.mem_cons, hrest]
        constructor
        · rintro ⟨hn, hr⟩
          exact ⟨.inr hn, hr⟩
        · rintro ⟨rfl | hn, hr⟩
          · exact absurd (hm.mpr hr) hob
          · exact ⟨hn, hr⟩

end Engine

end Workflow
