import Mathlib.Logic.Relation
import Workflow.Proofs.Engine.Announce
import Workflow.Proofs.Engine.Evaluate

/-! No join is forgotten while something still has to happen: an open node that is ready is awaited
by the queue, or it waits behind a source that was fanned out over nothing. -/

namespace Workflow.Engine

open Run (Lawful)

inductive Awaited (p : Plan) (r : Run) (queue : List Message) : String → Prop where
  | fire {n} (h : .fire n ∈ queue) : Awaited p r queue n
  | walk {n key} (h : .walk key ∈ queue) (hs : r.template key ∈ p.parents n) : Awaited p r queue n
  | blocked {n s} (hs : s ∈ p.parents n) (hh : r.Hollow s) (hr : ¬ r.Ready p s) :
      Awaited p r queue n
  | behind {n s} (hs : s ∈ p.parents n) (hh : r.Hollow s) (h : Awaited p r queue s) :
      Awaited p r queue n

def Attended (p : Plan) (r : Run) (queue : List Message) : Prop :=
  ∀ n ∈ p.nodeIds, r.Open n → r.Ready p n → Awaited p r queue n

variable {p : Plan} {now : Instant} {r r' : Run} {n : String} {m : Message}
  {queue queue' rest out : List Message} {ws : List Write} {o : Outcome}

lemma Awaited.mono (h : Awaited p r queue n) (hsub : queue ⊆ queue') : Awaited p r queue' n := by
  induction h with
  | fire h => exact .fire (hsub h)
  | walk h hs => exact .walk (hsub h) hs
  | blocked hs hh hr => exact .blocked hs hh hr
  | behind hs hh _ ih => exact .behind hs hh ih

lemma Awaited.hollow_source (h : Awaited p r [] n) :
    ∃ s ∈ p.parents n, r.Hollow s ∧ (r.Ready p s → Awaited p r [] s) := by
  cases h with
  | fire hm | walk hm => cases hm
  | blocked hs hh hr => exact ⟨_, hs, hh, fun hready => absurd hready hr⟩
  | behind hs hh h => exact ⟨_, hs, hh, fun _ => h⟩

lemma Attended.mono (h : Attended p r queue) (hsub : queue ⊆ queue') : Attended p r queue' :=
  fun n hn ho hr => (h n hn ho hr).mono hsub

lemma mem_keys_of_template_mem (hso : r.Sound p) {key : String} (h : r.template key ∈ p.nodeIds) :
    key ∈ Keyed.keys r.states := by
  cases hi : r.instance? key with
  | some k =>
    obtain ⟨hreg, rfl⟩ := (Run.instance?_eq_some_iff hso.instances_nodup).mp hi
    exact hso.instance_mem hreg
  | none =>
    simp only [Run.template, hi, Option.map_none, Option.getD_none] at h
    exact hso.node_mem h

section Announced

variable (hwf : p.WellFormed) (hso : r.Sound p) (hso' : r'.Sound p) (ha : Announces p r r' out)
include ha

lemma awaited_of_settled {s key : String} (hs : s ∈ p.parents n) (hset : r'.Settled key)
    (htempl : r'.template key = s) (hno : ¬ r.Has key .completed ∧ (r'.Has key .failed →
      ¬ r.Has key .failed)) (hout : out ⊆ queue) : Awaited p r' queue n := by
  rcases hset with hk | hk
  · exact .walk (hout ((ha.settled hk rfl).resolve_right hno.1)) (htempl ▸ hs)
  · exact .walk (hout ((ha.settled hk rfl).resolve_right (hno.2 hk))) (htempl ▸ hs)

include hso hso'

lemma not_has_of_new {s key : String} (hi : ¬ r.hasInstances s = true)
    (hk : key ∈ instanceTexts r' s) (st : Status) : ¬ r.Has key st := by
  rintro ⟨x, hx, _⟩
  have hkey := Run.mem_keys_of_state? hx
  have htempl : r.template key = s :=
    (ha.stable hkey).2.symm.trans (hso'.template_instanceText hk)
  exact hi (Run.Sound.hasInstances_of_mem
    (hso.mem_instanceTexts_of_template hkey htempl (hso'.instanceText_ne hk)))

include hwf

lemma awaited_of_ready (hnot : ¬ r.Ready p n) (hr : r'.Ready p n) (hout : out ⊆ queue) :
    Awaited p r' queue n := by
  -- A node that comes to be ready has a source that is walked, or one that was just fanned out over
  -- nothing, by a key that is walked.
  simp only [Run.Ready, not_forall] at hnot
  obtain ⟨s, hs, hdone⟩ := hnot
  have hs' := hr s hs
  have hmem := hwf.parent_mem (hwf.parents_iff.mp hs)
  simp only [Run.Done] at hdone hs'
  -- The source had instances before, has them now, or is a key itself.
  by_cases hi : r.hasInstances s = true
  · rw [if_pos hi] at hdone
    rw [if_pos (ha.hasInstances hi), ha.instanceTexts hi] at hs'
    simp only [not_forall] at hdone
    obtain ⟨k, hk, hno⟩ := hdone
    simp only [Run.Settled, not_or] at hno
    have htempl : r'.template k = s := hso'.template_instanceText (ha.instanceTexts hi ▸ hk)
    exact awaited_of_settled ha hs (hs' k hk) htempl ⟨hno.1, fun _ => hno.2⟩ hout
  · by_cases hi' : r'.hasInstances s = true
    · rw [if_pos hi'] at hs'
      by_cases hhollow : r'.Hollow s
      · by_cases hrs : r'.Ready p s
        · obtain ⟨key, _, hw, ht⟩ := (ha.fanned hi').resolve_left hi
          exact .behind hs hhollow (.walk (hout hw) ht)
        · exact .blocked hs hhollow hrs
      · obtain ⟨k, hk⟩ := hso'.exists_instanceText hi' hhollow
        have hnew := not_has_of_new hso hso' ha hi hk
        exact awaited_of_settled ha hs (hs' k hk) (hso'.template_instanceText hk)
          ⟨hnew _, fun _ => hnew _⟩ hout
    · rw [if_neg hi] at hdone
      rw [if_neg hi'] at hs'
      simp only [not_or, not_and] at hdone
      have hset : r'.Settled s := hs'.imp_right And.right
      refine awaited_of_settled ha hs hset (hso'.template_node hmem) ⟨hdone.1, fun hf => ?_⟩ hout
      rcases hs' with hc | ⟨hc, _⟩
      · cases hc.unique hf
      · exact hdone.2 hc

omit hwf hso' in
lemma awaited_of_open (hn : n ∈ p.nodeIds) (hnot : ¬ r.Open n) (hopen : r'.Open n)
    (hout : out ⊆ queue) : Awaited p r' queue n := by
  obtain ⟨k, hk, hp⟩ := hopen
  by_cases hi' : r'.hasInstances n = true
  · rcases ha.fanned hi' with hi | ⟨key, _, hw, ht⟩
    · have hk' : k ∈ r.keysOf n := by
        rw [Run.keysOf, if_pos hi'] at hk
        rwa [Run.keysOf, if_pos hi, ← ha.instanceTexts hi]
      obtain ⟨s, hs⟩ := hso.keysOf_state hn hk'
      exact absurd hp (ha.not_pending (Run.mem_keys_of_state? hs) fun hp => hnot ⟨k, hk', hp⟩)
    · exact .walk (hout hw) ht
  · have hi : ¬ r.hasInstances n = true := fun hi => hi' (ha.hasInstances hi)
    rw [Run.keysOf, if_neg hi', List.mem_singleton] at hk
    subst hk
    refine absurd hp (ha.not_pending (hso.node_mem hn) fun hp => hnot ⟨k, ?_, hp⟩)
    rw [Run.keysOf, if_neg hi, List.mem_singleton]

lemma Awaited.next (h : Awaited p r queue n) (hn : n ∈ p.nodeIds) (hr : r'.Ready p n)
    (hout : out ⊆ queue')
    (hfire : ∀ {t}, t ∈ p.nodeIds → .fire t ∈ queue → .fire t ∈ queue' ∨
      ¬ r'.Open t ∧ (r'.Hollow t → .walk t ∈ queue'))
    (hwalk : ∀ {k t}, .walk k ∈ queue → r.template k ∈ p.parents t →
      .walk k ∈ queue' ∨ (r'.Ready p t → .fire t ∈ queue')) :
    Awaited p r' queue' n ∨ ¬ r'.Open n ∧ (r'.Hollow n → .walk n ∈ queue') := by
  induction h with
  | @fire n h => exact (hfire hn h).imp_left .fire
  | @walk n key h hs =>
    rcases hwalk h hs with hw | hf
    · refine .inl (.walk hw ?_)
      have hmem := hwf.parent_mem (hwf.parents_iff.mp hs)
      rwa [(ha.stable (mem_keys_of_template_mem hso hmem)).2]
    · exact .inl (.fire (hf hr))
  | @blocked n s hs hh hno =>
    by_cases hrs : r'.Ready p s
    · exact .inl (.behind hs (ha.hollow hh) (awaited_of_ready hwf hso hso' ha hno hrs hout))
    · exact .inl (.blocked hs (ha.hollow hh) hrs)
  -- A hollow source that is closed is walked, and its walk comes for the node.
  | @behind n s hs hh h ih =>
    by_cases hrs : r'.Ready p s
    · have hmem := hwf.parent_mem (hwf.parents_iff.mp hs)
      rcases ih hmem hrs with hs' | ⟨_, hw⟩
      · exact .inl (.behind hs (ha.hollow hh) hs')
      · exact .inl (.walk (hw (ha.hollow hh)) (by rwa [hso'.template_node hmem]))
    · exact .inl (.blocked hs (ha.hollow hh) hrs)

end Announced

lemma Worked.walk_key {node : PlanNode} {key k : String} {input : Json}
    (h : Worked p r node key input ws o) (hk : .walk k ∈ o.messages) : k = key := by
  cases h <;> simp_all [Outcome.send, Outcome.nothing, Outcome.walk]

lemma Started.walk_key {node : PlanNode} {key k : String} {input : Json} {source : Status}
    (h : Started p now r node key input source ws o) (hk : .walk k ∈ o.messages) : k = key := by
  cases h with
  | skipped => simp [Outcome.nothing] at hk
  | worked _ hw => exact hw.walk_key hk

lemma Handled.closes (hwf : p.WellFormed) (hso : r.Sound p) (h : Handled p now r (.fire n) ws o)
    (hn : n ∈ p.nodeIds) :
    ¬ (r.afterAll now ws).Open n ∧ ((r.afterAll now ws).Hollow n → .walk n ∈ o.messages) := by
  have ha := h.announces hwf hso
  cases h with
  | missing hno => exact absurd hn hno
  | hollow _ hh => exact ⟨Run.not_open_of_hollow hh, fun _ => by simp [Outcome.walk]⟩
  | @instances _ node mapping _ _ hnode hi hne hm hf =>
    have hkeys : ∀ k ∈ instanceTexts r n, k ∈ Keyed.keys r.states ∧ r.template k = n :=
      fun k hk => hso.known_instanceText hk
    constructor
    · rintro ⟨k, hk, hp⟩
      rw [Run.keysOf, if_pos (ha.hasInstances hi), ha.instanceTexts hi] at hk
      exact hf.not_pending hwf hso hnode hkeys (fun _ _ hp => hp) k hk hp
    · intro hh
      obtain ⟨is, hfind⟩ := Run.hasInstances_iff.mp hi
      have := (ha.kept hfind).symm.trans hh
      rw [Option.some.inj this] at hfind
      exact absurd hfind hne
  | @whole _ node input _ _ hnode hi hin hs =>
    have htempl := hso.template_node hn
    have hwhole : (r.afterAll now ws).hasInstances n ≠ true := by
      intro hi'
      rcases ha.fanned hi' with hold | ⟨key, hk, hw, ht⟩
      · simp [hi] at hold
      · obtain rfl := hs.walk_key hw
        rw [(ha.stable (hso.node_mem hn)).2, htempl] at ht
        exact hwf.not_mem_children (hwf.parents_iff.mp ht)
    constructor
    · rintro ⟨k, hk, hp⟩
      rw [Run.keysOf, if_neg hwhole, List.mem_singleton] at hk
      exact hs.not_pending hwf hso (by rwa [htempl]) (hk ▸ hp)
    · exact fun hh => absurd (Run.hasInstances_of_hollow hh) hwhole

lemma Awaited.step (hwf : p.WellFormed) (hso : r.Sound p) (hn : n ∈ p.nodeIds)
    (hj : r.Open n → r.Ready p n → Awaited p r (m :: rest) n) (hm : Handled p now r m ws o)
    (hlaw : Lawful p now r ws) (hopen : (r.afterAll now ws).Open n)
    (hr : (r.afterAll now ws).Ready p n) :
    Awaited p (r.afterAll now ws) (rest ++ o.messages) n := by
  have hso' := hso.afterAll hwf.child_mem hlaw
  have ha := hm.announces hwf hso
  have hout : o.messages ⊆ rest ++ o.messages := List.subset_append_right _ _
  by_cases hopen₀ : r.Open n
  · by_cases hr₀ : r.Ready p n
    · refine (Awaited.next hwf hso hso' ha (hj hopen₀ hr₀) hn hr hout
        (fun {t} ht hf => ?_) fun {k t} hw ht => ?_).resolve_right fun h => h.1 hopen
      · rcases List.mem_cons.mp hf with rfl | hf
        · obtain ⟨hclosed, hwalk⟩ := hm.closes hwf hso ht
          exact .inr ⟨hclosed, fun hh => hout (hwalk hh)⟩
        · exact .inl (List.mem_append_left _ hf)
      · rcases List.mem_cons.mp hw with rfl | hw
        · refine .inr fun hrt => hout ?_
          cases hm with
          | walked _ hl =>
            exact List.mem_map.mpr ⟨t, (hl t).mpr ⟨hwf.parents_iff.mp ht, hrt⟩, rfl⟩
          | strayed hno => exact absurd (hwf.parent_mem (hwf.parents_iff.mp ht)) hno
        · exact .inl (List.mem_append_left _ hw)
    · exact awaited_of_ready hwf hso hso' ha hr₀ hr hout
  · exact awaited_of_open hso ha hn hopen₀ hopen hout

lemma Attended.step (hwf : p.WellFormed) (hso : r.Sound p) (hj : Attended p r (m :: rest))
    (hm : Handled p now r m ws o) (hlaw : Lawful p now r ws) :
    Attended p (r.afterAll now ws) (rest ++ o.messages) :=
  fun n hn hopen hr => Awaited.step hwf hso hn (hj n hn) hm hlaw hopen hr

lemma attended_newRun {v : FlowVersion} {id : String} {t : Trigger} {entityId : Option String}
    (hwf : v.plan.WellFormed) :
    Attended v.plan (newRun id v t entityId now) (v.plan.entryNodes.map .fire) := by
  intro n hn _ hr
  have hentry : v.plan.parents n = [] := by
    rw [List.eq_nil_iff_forall_not_mem]
    intro s hs
    rcases hr s hs with hc | ⟨_, hf⟩
    · cases has_newRun hc
    · cases has_newRun hf
  exact .fire (List.mem_map.mpr ⟨n, hwf.entry_iff.mpr ⟨hn, hentry⟩, rfl⟩)

lemma Drained.attended {qs : List Request} (hwf : p.WellFormed) (hso : r.Sound p)
    (h : Drained p now r queue ws qs) (hj : Attended p r queue) :
    Attended p (r.afterAll now ws) [] :=
  h.preserves hwf.child_mem (fun hj hso hm hlaw => hj.step hwf hso hm hlaw) hso hj

lemma Life.attended {id : String} {w : World} {allowed : Call → Prop} (hwf : p.WellFormed)
    (hcall : ∀ key c, allowed (.callback key c)) (h : Life p allowed id w) :
    ∃ r, w.Hosts id p r ∧ r.Sound p ∧ Store.holdsRevision r.revision = true ∧ Attended p r [] := by
  refine h.invariant hwf hcall (fun hj hso _ hd hrev => ?_) fun hv hd hrev => ?_
  · exact ⟨hrev, hd.attended hwf hso (hj.2.mono (List.nil_subset _))⟩
  · subst hv
    exact ⟨hrev, hd.attended hwf (newRun_sound hwf _ _ _ _) (attended_newRun hwf)⟩

/-- A failed key belongs to a node from which edges lead to the node. -/
def FailedAbove (p : Plan) (r : Run) (n : String) : Prop :=
  ∃ k, r.Has k .failed ∧ Relation.TransGen (fun a b => b ∈ p.children a) (r.template k) n

def Quiet (p : Plan) (r : Run) : Prop :=
  ∀ n ∈ p.nodeIds, ∀ k ∈ r.keysOf n, r.Has k .pending ∨ r.Settled k

lemma FailedAbove.child {s : String} (h : FailedAbove p r s) (hs : n ∈ p.children s) :
    FailedAbove p r n := by
  obtain ⟨k, hk, ht⟩ := h
  exact ⟨k, hk, ht.tail hs⟩

section Quiet

variable (hwf : p.WellFormed) (hso : r.Sound p) (hq : Quiet p r)
include hwf hso hq

lemma failedAbove_of_not_ready (ih : ∀ s, n ∈ p.children s → r.Open s → FailedAbove p r s)
    (hnot : ¬ r.Ready p n) : FailedAbove p r n := by
  simp only [Run.Ready, not_forall] at hnot
  obtain ⟨s, hs, hdone⟩ := hnot
  have hc := hwf.parents_iff.mp hs
  have hmem := hwf.parent_mem hc
  simp only [Run.Done] at hdone
  by_cases hi : r.hasInstances s = true
  · rw [if_pos hi] at hdone
    simp only [not_forall] at hdone
    obtain ⟨k, hk, hno⟩ := hdone
    have hk' : k ∈ r.keysOf s := by rwa [Run.keysOf, if_pos hi]
    exact (ih s hc ⟨k, hk', (hq s hmem k hk').resolve_right hno⟩).child hc
  · rw [if_neg hi] at hdone
    have hk : s ∈ r.keysOf s := by rw [Run.keysOf, if_neg hi, List.mem_singleton]
    rcases hq s hmem s hk with hp | hcomp | hf
    · exact (ih s hc ⟨s, hk, hp⟩).child hc
    · exact absurd (.inl hcomp) hdone
    · refine ⟨s, hf, .single ?_⟩
      rwa [hso.template_node hmem]

lemma failedAbove (hj : Attended p r []) (n : String) (hn : n ∈ p.nodeIds) :
    (¬ r.Ready p n → FailedAbove p r n) ∧ (Awaited p r [] n → FailedAbove p r n) ∧
      (r.Open n → FailedAbove p r n) := by
  -- Along the edges: whatever holds a source back holds back the nodes behind it.
  induction n using hwf.upward.induction with
  | _ n ih =>
    have hready : ¬ r.Ready p n → FailedAbove p r n :=
      failedAbove_of_not_ready hwf hso hq fun s hs => (ih s hs (hwf.parent_mem hs)).2.2
    have hawaited : Awaited p r [] n → FailedAbove p r n := by
      rintro (h | ⟨h, _⟩ | ⟨hs, _, hr⟩ | ⟨hs, _, h⟩)
      · cases h
      · cases h
      · have hc := hwf.parents_iff.mp hs
        exact ((ih _ hc (hwf.parent_mem hc)).1 hr).child hc
      · have hc := hwf.parents_iff.mp hs
        exact ((ih _ hc (hwf.parent_mem hc)).2.1 h).child hc
    refine ⟨hready, hawaited, fun hopen => ?_⟩
    by_cases hr : r.Ready p n
    · exact hawaited (hj n hn hopen hr)
    · exact hready hr

end Quiet

/-- No run is stuck without a cause. When nobody works on it, a pending key belongs to a node below
one that failed, and a run without failed keys is finished. -/
theorem pending_behind_failure {c : Canvas} {catalogue : Catalogue} {id : String} {w : World}
    (hc : c.compile catalogue = .ok p) (h : Life p (fun _ => True) id w) :
    ∃ r, w.store.run? id = some r ∧
      ((∀ k ∈ r.effectiveKeys, ¬ r.Has k .running ∧ ¬ r.Has k .waitingForUser) →
        (∀ k ∈ r.effectiveKeys, r.Has k .pending → FailedAbove p r (r.template k)) ∧
          ((∀ k, ¬ r.Has k .failed) → r.isFinished = .ok true)) := by
  have hwf := Canvas.compile_wellFormed hc
  obtain ⟨r, hhosts, hso, _, hj⟩ := h.attended hwf fun _ _ => trivial
  refine ⟨r, hhosts.row, fun hidle => ?_⟩
  have hquiet : Quiet p r := by
    intro n hn k hk
    obtain ⟨s, hs⟩ := hso.keysOf_state hn hk
    obtain ⟨hrun, hwait⟩ := hidle k (hso.mem_effectiveKeys.mpr ⟨n, hn, hk⟩)
    simp only [Run.Settled, Run.has_iff hs] at hrun hwait ⊢
    cases hst : s.status <;> simp_all
  have hbehind : ∀ k ∈ r.effectiveKeys, r.Has k .pending → FailedAbove p r (r.template k) := by
    intro k hk hp
    obtain ⟨n, hn, hk⟩ := hso.mem_effectiveKeys.mp hk
    rw [hso.template_keysOf hn hk]
    exact (failedAbove hwf hso hquiet hj n hn).2.2 ⟨k, hk, hp⟩
  refine ⟨hbehind, fun hnone => ?_⟩
  obtain ⟨b, hb, hiff⟩ := hso.isFinished_ok
  have hall : ∀ n ∈ p.nodeIds, ∀ k ∈ r.keysOf n, r.Settled k := by
    intro n hn k hk
    refine (hquiet n hn k hk).resolve_left fun hp => ?_
    obtain ⟨k', hf, _⟩ := hbehind k (hso.mem_effectiveKeys.mpr ⟨n, hn, hk⟩) hp
    exact hnone k' hf
  rw [hb, hiff.mpr hall]

def formsBehindSplitter : Canvas where
  nodes? := some [.bare "split" .splitter [("array_path", .str "items")], .bare "form" .ux [],
    .bare "join" .collector []]
  edges? := some [.bare "split" "form" [], .bare "form" "join" []]

theorem form_behind_failed_splitter : ∃ (id : String) (w : World) (r : Run),
    Life (.ofCanvas formsBehindSplitter []) (fun _ => True) id w ∧ w.store.run? id = some r ∧
      r.Has "form" .pending ∧
      FailedAbove (.ofCanvas formsBehindSplitter []) r (r.template "form") := by
  -- Without items the splitter fails, and the form stays pending.
  have hc := Canvas.compile_of_checks (c := formsBehindSplitter) (by decide +kernel)
    (by decide +kernel) (by decide +kernel)
  obtain ⟨⟨id, w⟩, hstart, r, hr, hform, hidle⟩ := exists_of_any
    (x := Engine.accepting.startFor 9 "version" .byHand none none (.ofCanvas formsBehindSplitter))
    (P := fun x => ∃ r ∈ x.2.store.run? x.1, r.Has "form" .pending ∧ "form" ∈ r.effectiveKeys ∧
      ∀ k ∈ r.effectiveKeys, ¬ r.Has k .running ∧ ¬ r.Has k .waitingForUser) (by decide +kernel)
  have hl : Life (.ofCanvas formsBehindSplitter []) (fun _ => True) id w :=
    .of_startFor rfl rfl rfl hstart
  obtain ⟨q, hq, h⟩ := pending_behind_failure hc hl
  obtain rfl := Option.some.inj (hq.symm.trans hr)
  exact ⟨id, w, q, hl, hq, hform, (h hidle.2).1 _ hidle.1 hform⟩

end Workflow.Engine
