import Workflow.Proofs.Engine.Start

/-! What a run shows of its keys, and that its nodes read nothing else of each other. -/

namespace Workflow

structure Shown where
  status : Status
  output : Json
  error : Option String
deriving DecidableEq

def NodeState.shown (s : NodeState) : Shown := ⟨s.status, s.output, s.error⟩

namespace Run

def shown? (r : Run) (key : String) : Option Shown := (r.state? key).map NodeState.shown

structure SameAt (r q : Run) (n : String) : Prop where
  instances : Keyed.find? r.instances n = Keyed.find? q.instances n
  keys : ∀ k ∈ r.keysOf n, r.shown? k = q.shown? k

def result? (r : Run) (key : String) : Option Json :=
  (r.shown? key).bind fun v => if v.status = .completed then some v.output else none

variable {p : Plan} {r q : Run} {n s key : String} {st : Status} {v : Shown}

lemma shown?_of_state? {s : NodeState} (h : r.state? key = some s) :
    r.shown? key = some s.shown := by
  simp [shown?, h]

lemma has_iff_shown : r.Has key st ↔ ∃ v, r.shown? key = some v ∧ v.status = st := by
  simp [Has, shown?, NodeState.shown]

lemma has_of_shown? (h : r.shown? key = some v) : r.Has key v.status :=
  has_iff_shown.mpr ⟨v, h, rfl⟩

lemma status_of_shown? (h : r.shown? key = some v) (hst : r.Has key st) : v.status = st :=
  (has_of_shown? h).unique hst

lemma has_of_result? {x : Json} (h : r.result? key = some x) : r.Has key .completed := by
  obtain ⟨v, hv, hx⟩ := Option.bind_eq_some_iff.mp h
  split at hx
  · rename_i hc
    exact has_iff_shown.mpr ⟨v, hv, hc⟩
  · cases hx

lemma exists_shown (h : key ∈ Keyed.keys r.states) : ∃ v, r.shown? key = some v := by
  obtain ⟨s, hs⟩ := exists_state h
  exact ⟨_, shown?_of_state? hs⟩

lemma mem_keys_of_shown? (h : r.shown? key = some v) : key ∈ Keyed.keys r.states := by
  obtain ⟨s, hs, _⟩ := Option.map_eq_some_iff.mp h
  exact mem_keys_of_state? hs

lemma has_congr (h : r.shown? key = q.shown? key) : r.Has key st ↔ q.Has key st := by
  rw [has_iff_shown, has_iff_shown, h]

lemma settled_congr (h : r.shown? key = q.shown? key) : r.Settled key ↔ q.Settled key := by
  rw [Settled, Settled, has_congr h, has_congr h]

lemma hasInstances_congr (h : Keyed.find? r.instances n = Keyed.find? q.instances n) :
    r.hasInstances n = q.hasInstances n := by
  rw [hasInstances, hasInstances, Keyed.has, Keyed.has, h]

lemma instanceTexts_congr (h : Keyed.find? r.instances n = Keyed.find? q.instances n) :
    Engine.instanceTexts r n = Engine.instanceTexts q n := by
  rw [Engine.instanceTexts, Engine.instanceTexts, instanceKeys, instanceKeys, h]

lemma keysOf_congr (h : Keyed.find? r.instances n = Keyed.find? q.instances n) :
    r.keysOf n = q.keysOf n := by
  rw [keysOf, keysOf, hasInstances_congr h, instanceTexts_congr h]

namespace SameAt

lemma keysOf (h : SameAt r q n) : r.keysOf n = q.keysOf n := keysOf_congr h.instances

protected lemma symm (h : SameAt r q n) : SameAt q r n :=
  ⟨h.instances.symm, fun k hk => (h.keys k (h.keysOf ▸ hk)).symm⟩

lemma instance_shown (h : SameAt r q n) (hi : r.hasInstances n = true) {k : String}
    (hk : k ∈ Engine.instanceTexts r n) : r.shown? k = q.shown? k :=
  h.keys k (by rwa [Run.keysOf, if_pos hi])

lemma node_shown (h : SameAt r q n) (hi : r.hasInstances n = false) : r.shown? n = q.shown? n :=
  h.keys n (by simp [Run.keysOf, hi])

lemma done (h : SameAt r q s) (hd : r.Done p n s) : q.Done p n s := by
  unfold Done at hd ⊢
  rw [← hasInstances_congr h.instances, ← instanceTexts_congr h.instances]
  by_cases hi : r.hasInstances s = true
  · rw [if_pos hi] at hd ⊢
    exact fun k hk => (settled_congr (h.instance_shown hi hk)).mp (hd k hk)
  · have hs := h.node_shown (by simpa using hi)
    rw [if_neg hi] at hd ⊢
    rwa [← has_congr hs, ← has_congr hs]

lemma isOpen (h : SameAt r q n) (ho : r.Open n) : q.Open n := by
  obtain ⟨k, hk, hp⟩ := ho
  exact ⟨k, h.keysOf ▸ hk, (has_congr (h.keys k hk)).mp hp⟩

end SameAt

lemma Ready.congr (h : ∀ s ∈ p.parents n, SameAt r q s) (hr : r.Ready p n) : q.Ready p n :=
  fun s hs => (h s hs).done (hr s hs)

end Run

namespace Engine

variable {p : Plan} {r q : Run} {n : PlanNode} {s : String} {mapping : Mapping}

lemma completedOutputs_eq (h : r.Sound p) :
    completedOutputs r s = .ok ((instanceTexts r s).filterMap r.result?) := by
  unfold completedOutputs
  have hmem : ∀ k ∈ instanceTexts r s, ∃ st, r.state? k = some st := fun k hk => h.text_state hk
  generalize instanceTexts r s = l at hmem
  suffices hl : ∃ sts, l.mapM r.stateAt = .ok sts ∧
      (sts.filter fun st => st.status == .completed).map (·.output) = l.filterMap r.result? by
    obtain ⟨sts, hsts, he⟩ := hl
    simp [hsts, he, Failure.ofMissing, Except.mapError, bind, Except.bind, pure, Except.pure]
  induction l with
  | nil => exact ⟨[], rfl, rfl⟩
  | cons k rest ih =>
    obtain ⟨⟨st, hst⟩, hrest⟩ := List.forall_mem_cons.mp hmem
    obtain ⟨sts, hsts, he⟩ := ih hrest
    refine ⟨st :: sts, ?_, ?_⟩
    · simp [List.mapM_cons, Run.stateAt_of_state? hst, hsts, bind, Except.bind, pure, Except.pure]
    · have hres : r.result? k = if st.status = .completed then some st.output else none := by
        simp [Run.result?, Run.shown?_of_state? hst, NodeState.shown]
      by_cases hc : st.status = .completed
      · simp [hc, hres, ← he]
      · simp [hc, hres, ← he]

lemma filterMap_result_congr {l : List String} (h : ∀ k ∈ l, r.shown? k = q.shown? k) :
    l.filterMap r.result? = l.filterMap q.result? :=
  List.filterMap_congr fun k hk => by rw [Run.result?, Run.result?, h k hk]

lemma contribution_congr (hr : r.Sound p) (hq : q.Sound p) (h : r.SameAt q s) :
    contribution r s mapping = contribution q s mapping := by
  unfold contribution
  rw [← Run.hasInstances_congr h.instances]
  by_cases hi : r.hasInstances s = true
  · rw [if_pos hi, if_pos hi, completedOutputs_eq hr, completedOutputs_eq hq,
      ← Run.instanceTexts_congr h.instances,
      filterMap_result_congr fun k hk => h.instance_shown hi hk]
  · rw [if_neg hi, if_neg hi]
    have hs := h.node_shown (by simpa using hi)
    rw [Run.shown?, Run.shown?] at hs
    cases hrs : r.state? s with
    | none =>
      rw [hrs, Option.map_none, eq_comm, Option.map_eq_none_iff] at hs
      rw [hs]
    | some st =>
      rw [hrs, Option.map_some, eq_comm, Option.map_eq_some_iff] at hs
      obtain ⟨st', hst', he⟩ := hs
      simp only [NodeState.shown, Shown.mk.injEq] at he
      simp only [hst', he.1, he.2.1]

lemma mergeFrom_congr (hr : r.Sound p) (hq : q.Sound p) {id : String} {l : List String}
    (h : ∀ s ∈ l, r.SameAt q s) (merged : Keyed Json) :
    mergeFrom p r id merged l = mergeFrom p q id merged l := by
  induction l generalizing merged with
  | nil => rfl
  | cons s rest ih =>
    obtain ⟨hs, hrest⟩ := List.forall_mem_cons.mp h
    simp only [mergeFrom, contribution_congr hr hq hs]
    cases contribution q s (p.mappingFor s id) with
    | error f => rfl
    | ok given => exact ih hrest _

lemma nodeInput_congr (hr : r.Sound p) (hq : q.Sound p)
    (hpay : r.trigger.payload.getD [] = q.trigger.payload.getD [])
    (h : ∀ s ∈ p.parents n.id, r.SameAt q s) : nodeInput p r n = nodeInput p q n := by
  rw [nodeInput, nodeInput, mergedInput, mergedInput, mergeFrom_congr hr hq h, hpay]

def branchKeys (r : Run) (sources : List String) : List String := sources.flatMap r.keysOf

lemma branchesOf_eq (sources : List String) :
    branchesOf r sources = (branchKeys r sources).map fun k => (k, r.state? k) := by
  simp [branchesOf, branchKeys, List.map_flatMap]

lemma branchOutputs_eq (keys : List String) :
    branchOutputs (keys.map fun k => (k, r.state? k)) =
      keys.filterMap fun k => (r.result? k).map fun x => (k, x) := by
  rw [branchOutputs, List.filterMap_map]
  congr 1
  funext k
  cases hs : r.state? k with
  | none => simp [hs, Run.result?, Run.shown?]
  | some st =>
    by_cases hc : st.status = .completed
    · simp [hs, hc, Run.result?, Run.shown?, NodeState.shown]
    · simp [hs, hc, Run.result?, Run.shown?, NodeState.shown]

lemma branchKeys_congr {l : List String} (h : ∀ s ∈ l, r.SameAt q s) :
    branchKeys r l = branchKeys q l := by
  induction l with
  | nil => rfl
  | cons s rest ih =>
    obtain ⟨hs, hrest⟩ := List.forall_mem_cons.mp h
    have hrest' := ih hrest
    simp only [branchKeys] at hrest'
    simp only [branchKeys, List.flatMap_cons, hs.keysOf, hrest']

lemma collectValue_congr (h : ∀ s ∈ p.parents n.id, r.SameAt q s) :
    collectValue p r n = collectValue p q n := by
  have hkeys := branchKeys_congr h
  have hout : (branchKeys q (p.parents n.id)).filterMap
        (fun k => (r.result? k).map fun x => (k, x)) =
      (branchKeys q (p.parents n.id)).filterMap fun k => (q.result? k).map fun x => (k, x) := by
    refine List.filterMap_congr fun k hk => ?_
    rw [← hkeys] at hk
    obtain ⟨s, hs, hk⟩ := List.mem_flatMap.mp hk
    rw [Run.result?, Run.result?, (h s hs).keys k hk]
  simp only [collectValue, branchesOf_eq, branchOutputs_eq, hkeys, hout, List.length_map,
    List.isEmpty_map]

end Engine

end Workflow
