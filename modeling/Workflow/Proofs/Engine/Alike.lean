import Workflow.Proofs.Engine.Answered
import Workflow.Proofs.Engine.Reconcile

/-! Two runs with the same answers end alike, whatever the order of the answers, but for nodes that
are overlooked in one of them only. -/

namespace Workflow.Engine

open Run (SameAt)

def Idle (r : Run) : Prop := ∀ key, ¬ r.Has key .running ∧ ¬ r.Has key .waitingForUser

/-- No fan-out was rejected: a splitter's key that failed does not tell of a rejection. -/
def Unrejected (p : Plan) (r : Run) : Prop :=
  ∀ {n key s f}, p.node? (r.template key) = some n → n.kind = .splitter → r.state? key = some s →
    s.status = .failed → Store.Rejection f → s.error ≠ some f.text

lemma head?_append {s t : String} {c : Char} (h : s.toList.head? = some c) :
    (s ++ t).toList.head? = some c := by
  simp [String.toList_append, h]

lemma head?_rejection {f : Failure} (h : Store.Rejection f) :
    f.text.toList.head? = some 'P' ∨ f.text.toList.head? = some 'I' := by
  cases h with
  | «exists» => exact .inl (head?_append (head?_append (head?_append rfl)))
  | collision => exact .inr (head?_append (head?_append rfl))

lemma head?_badIndex (segment : String) (fault : Text.NumeralFault) :
    (Failure.badIndex segment fault).text.toList.head? = some 'i' ∨
      (Failure.badIndex segment fault).text.toList.head? = some 'E' := by
  cases fault with
  | notDecimal => exact .inl (head?_append rfl)
  | tooLong => exact .inr (head?_append (head?_append (head?_append rfl)))

/-- A splitter that finds no items does not tell of a rejection, so that `Unrejected` speaks of
rejections alone. -/
lemma splitItems_ne_rejection {n : PlanNode} {key e : String} {x : Json} {f : Failure}
    (h : splitItems n key x = .error e) (hf : Store.Rejection f) : e ≠ f.text := by
  have hne : ∀ {c}, e.toList.head? = some c → c ≠ 'P' → c ≠ 'I' → e ≠ f.text := by
    rintro c hc hP hI rfl
    rcases head?_rejection hf with h | h
    · exact hP (Option.some.inj (hc.symm.trans h))
    · exact hI (Option.some.inj (hc.symm.trans h))
  have hsplitter : e = s!"Splitter '{key}' has no config.array_path" → e ≠ f.text := by
    rintro rfl
    exact hne (head?_append (head?_append rfl)) (by decide : 'S' ≠ 'P') (by decide)
  unfold splitItems at h
  split at h
  · exact hsplitter (Except.error.inj h).symm
  · rename_i path _ _
    cases hr : x.resolveOutput path with
    | error b =>
      rw [hr] at h
      obtain rfl := Except.error.inj h
      rcases head?_badIndex b.segment b.fault with hc | hc
      · exact hne hc (by decide) (by decide)
      · exact hne hc (by decide) (by decide)
    | ok y =>
      rw [hr] at h
      cases y with
      | null =>
        obtain rfl := Except.error.inj h
        exact hne (head?_append (head?_append rfl)) (by decide : 'A' ≠ 'P') (by decide)
      | arr => cases h
      | _ =>
        obtain rfl := Except.error.inj h
        exact hne (head?_append (head?_append (head?_append (head?_append rfl))))
          (by decide : 'V' ≠ 'P') (by decide)
  · split at h
    · exact hsplitter (Except.error.inj h).symm
    · obtain rfl := Except.error.inj h
      exact hne (head?_append (head?_append rfl)) (by decide : '\'' ≠ 'P') (by decide)

structure Alike (r q : Run) : Prop where
  instances : ∀ t, Keyed.find? r.instances t = Keyed.find? q.instances t
  shown : ∀ key, r.shown? key = q.shown? key

def finalShown (p : Plan) (ans : Answers) (r : Run) (n : PlanNode) (key : String) (held x : Json) :
    Shown :=
  let joined : Except String Json → Shown
    | .error e => ⟨.failed, held, some e⟩
    | .ok y => ⟨.completed, y, none⟩
  match n.kind with
  | .worker => showAfter (Engine.reported (ans.report key x)) ⟨.running, held, none⟩
  | .ux => ⟨.completed, ans.answer key x, none⟩
  | .splitter => joined ((splitItems n key x).map .arr)
  | _ => joined (collectValue p r n)

variable {p : Plan} {payload : Keyed Json} {ans : Answers} {asked asked' : List Request} {r q : Run}
  {n : PlanNode} {key k m : String} {v : Shown} {held x : Json}

lemma Explained.final (h : Explained p ans asked r n key held x v) (hrun : v.status ≠ .running)
    (hwait : v.status ≠ .waitingForUser)
    (hun : n.kind = .splitter → v.status = .failed →
      ∀ {f}, Store.Rejection f → v.error ≠ some f.text) :
    v = finalShown p ans r n key held x := by
  cases h with
  | sent => exact absurd rfl hrun
  | parked => exact absurd rfl hwait
  | rejected hk hf => exact absurd rfl (hun hk rfl hf)
  | reported hk | answered hk => simp [finalShown, hk]
  | unsplit hk hi | split hk hi => simp [finalShown, hk, hi, Except.map]
  | uncollected hk hc | collected hk hc => simp [finalShown, hk, hc]

def Agree (p : Plan) (ans : Answers) (asked asked' : List Request) (r q : Run) : Prop :=
  ∀ {n k v v' held x}, p.node? n.id = some n → r.template k = n.id → q.template k = n.id →
    r.shown? k = some v → q.shown? k = some v' → Explained p ans asked r n k held x v →
    Explained p ans asked' q n k held x v' → collectValue p r n = collectValue p q n → v = v'

lemma Unrejected.error_ne (h : Unrejected p r) (hn : p.node? n.id = some n)
    (ht : r.template key = n.id) (hv : r.shown? key = some v) (hk : n.kind = .splitter)
    (hst : v.status = .failed) {f : Failure} (hf : Store.Rejection f) : v.error ≠ some f.text := by
  obtain ⟨s, hs, rfl⟩ := Option.map_eq_some_iff.mp hv
  exact h (by rwa [ht]) hk hs hst hf

lemma Idle.final (hidle : Idle r) (hun : Unrejected p r) (hn : p.node? n.id = some n)
    (ht : r.template key = n.id) (hv : r.shown? key = some v)
    (he : Explained p ans asked r n key held x v) : v = finalShown p ans r n key held x :=
  he.final (fun hst => (hidle key).1 (hst ▸ Run.has_of_shown? hv))
    (fun hst => (hidle key).2 (hst ▸ Run.has_of_shown? hv))
    fun hk hst _ => hun.error_ne hn ht hv hk hst

lemma Idle.agree (hidle : Idle r) (hidle' : Idle q) (hun : Unrejected p r)
    (hun' : Unrejected p q) : Agree p ans asked asked' r q := by
  intro n k v v' held x hn ht ht' hv hv' he he' hc
  rw [hidle.final hun hn ht hv he, hidle'.final hun' hn ht' hv' he', finalShown, finalShown, hc]

lemma Base.unique {held' : Json} (ht : Told p payload ans asked r) {m : String}
    (h : Base p r m key held) (h' : Base p r m key held') : held = held' := by
  have hwhole : ∀ {items}, r.hasInstances m = false → ¬ Spread p r m items := by
    intro items hi hs
    rw [Run.hasInstances_iff.mpr ⟨_, ht.spread hs⟩] at hi
    cases hi
  generalize hkey : key = key' at h'
  cases h with
  | whole hi =>
    cases h' with
    | whole => rfl
    | item hs => exact absurd hs (hwhole hi)
  | item hs hx =>
    cases h' with
    | whole hi => exact absurd hs (hwhole hi)
    | item hs' hx' =>
      obtain ⟨_, hij⟩ := InstanceKey.mk.inj (InstanceKey.text_injective hkey)
      obtain rfl := Int.ofNat.inj hij
      obtain rfl := ht.unique hs hs'
      exact Option.some.inj (hx.symm.trans hx')

lemma spread_congr {items : List Json} (hwf : p.WellFormed)
    (h : ∀ s ∈ p.parents m, SameAt r q s) (hs : Spread p r m items) : Spread p q m items := by
  obtain ⟨node, k, hn, hkind, htm, hk, hv⟩ := hs
  have hsame := h node.id (hwf.parents_iff.mpr (Plan.mem_fannedOut.mp htm).1)
  exact ⟨node, k, hn, hkind, htm, hsame.keysOf ▸ hk, (hsame.keys k hk).symm.trans hv⟩

lemma instances_congr (hwf : p.WellFormed) (hr : Told p payload ans asked r)
    (hq : Told p payload ans asked' q) (h : ∀ s ∈ p.parents m, SameAt r q s) :
    Keyed.find? r.instances m = Keyed.find? q.instances m := by
  cases hf : Keyed.find? r.instances m with
  | some is =>
    obtain ⟨items, hs⟩ := hr.fanned (Run.hasInstances_iff.mpr ⟨is, hf⟩)
    rw [← hf, hr.spread hs, hq.spread (spread_congr hwf h hs)]
  | none =>
    cases hf' : Keyed.find? q.instances m with
    | none => rfl
    | some is =>
      obtain ⟨items, hs⟩ := hq.fanned (Run.hasInstances_iff.mpr ⟨is, hf'⟩)
      have hs' := hr.spread (spread_congr hwf (fun s hs => (h s hs).symm) hs)
      rw [hf] at hs'
      cases hs'

lemma base_congr (hwf : p.WellFormed) (h : ∀ s ∈ p.parents m, SameAt r q s)
    (hi : Keyed.find? r.instances m = Keyed.find? q.instances m) (hb : Base p r m key held) :
    Base p q m key held := by
  cases hb with
  | whole hw => exact .whole (by rwa [← Run.hasInstances_congr hi])
  | item hs hx => exact .item (spread_congr hwf h hs) hx

lemma overlooked_of_open (hm : m ∈ p.nodeIds) (hj : Attended p r []) (ho : r.Open m)
    (hr : r.Ready p m) : Overlooked p r m := ⟨ho, hr, (hj m hm ho hr).stalled⟩

section Compare

variable (h : ∀ s ∈ p.parents n.id, SameAt r q s) (hn : p.node? n.id = some n)
  (hi : Keyed.find? r.instances n.id = Keyed.find? q.instances n.id) (hso' : q.Sound p)
  (hq : Ongoing p payload ans asked' q [])
include h hn hi hso' hq

lemma open_congr (hat : Attended p r []) (hover : Overlooked p r n.id → Overlooked p q n.id)
    (ho : r.Open n.id) : q.Open n.id := by
  have hmem := Plan.mem_nodeIds_iff.mpr ⟨n, hn⟩
  by_cases hready : r.Ready p n.id
  · exact (hover (overlooked_of_open hmem hat ho hready)).1
  · obtain ⟨k, hk, _⟩ := ho
    rw [Run.keysOf_congr hi] at hk
    obtain ⟨s, hs⟩ := hso'.keysOf_state hmem hk
    have hv := Run.shown?_of_state? hs
    refine ⟨k, hk, ?_⟩
    by_contra hnp
    have hst : s.shown.status ≠ .pending := fun he => hnp (he ▸ Run.has_of_shown? hv)
    exact hready ((hq.told.begun hn hk hv hst).1.congr fun s hs => (h s hs).symm)

variable (hwf : p.WellFormed) (hso : r.Sound p) (hr : Ongoing p payload ans asked r [])
include hwf hso hr

omit hso' hso in
lemma shown_of_open (ho : r.Open n.id) (ho' : q.Open n.id) (hk : k ∈ r.keysOf n.id) :
    r.shown? k = q.shown? k := by
  have hmem := Plan.mem_nodeIds_iff.mpr ⟨n, hn⟩
  have hk' : k ∈ q.keysOf n.id := Run.keysOf_congr hi ▸ hk
  obtain ⟨held, hb⟩ := exists_base hr.told hk
  obtain ⟨k₁, hk₁, hp₁⟩ := ho
  obtain ⟨k₂, hk₂, hp₂⟩ := ho'
  rw [hr.told.held hmem hk (hr.uniform _ hmem k₁ hk₁ k hk hp₁) hb,
    hq.told.held hmem hk' (hq.uniform _ hmem k₂ hk₂ k hk' hp₂) (base_congr hwf h hi hb)]

lemma explained_both {u : Shown} (hk : k ∈ r.keysOf n.id) (hv : r.shown? k = some v)
    (hv' : q.shown? k = some u) (hst : v.status ≠ .pending) (hst' : u.status ≠ .pending) :
    ∃ held x, Explained p ans asked r n k held x v ∧ Explained p ans asked' q n k held x u := by
  have hk' : k ∈ q.keysOf n.id := Run.keysOf_congr hi ▸ hk
  obtain ⟨_, held, x, hb, hx, he⟩ := hr.told.begun hn hk hv hst
  obtain ⟨_, held', x', hb', hx', he'⟩ := hq.told.begun hn hk' hv' hst'
  obtain rfl := (base_congr hwf h hi hb).unique hq.told hb'
  have hinput : keyInput p r n held = keyInput p q n held := by
    rw [keyInput, keyInput, Run.hasInstances_congr hi,
      nodeInput_congr hso hso' (hr.told.payload.trans hq.told.payload.symm) h]
  obtain rfl := Except.ok.inj (hx.symm.trans (hinput.trans hx'))
  exact ⟨held, x, he, he'⟩

lemma shown_of_closed (hagree : Agree p ans asked asked' r q) (ho : ¬ r.Open n.id)
    (ho' : ¬ q.Open n.id) (hk : k ∈ r.keysOf n.id) : r.shown? k = q.shown? k := by
  have hmem := Plan.mem_nodeIds_iff.mpr ⟨n, hn⟩
  have hk' : k ∈ q.keysOf n.id := Run.keysOf_congr hi ▸ hk
  obtain ⟨s, hs⟩ := hso.keysOf_state hmem hk
  obtain ⟨s', hs'⟩ := hso'.keysOf_state hmem hk'
  have hv := Run.shown?_of_state? hs
  have hv' := Run.shown?_of_state? hs'
  obtain ⟨held, x, he, he'⟩ := explained_both h hn hi hso' hq hwf hso hr hk hv hv'
    (fun hst => ho ⟨k, hk, hst ▸ Run.has_of_shown? hv⟩)
    (fun hst => ho' ⟨k, hk', hst ▸ Run.has_of_shown? hv'⟩)
  rw [hv, hv', hagree hn (hso.template_keysOf hmem hk) (hso'.template_keysOf hmem hk') hv hv' he
    he' (collectValue_congr h)]

end Compare

lemma sameAt (hwf : p.WellFormed) (hso : r.Sound p) (hso' : q.Sound p)
    (hr : Ongoing p payload ans asked r []) (hq : Ongoing p payload ans asked' q [])
    (hat : Attended p r []) (hat' : Attended p q []) (hagree : Agree p ans asked asked' r q)
    (hover : ∀ n ∈ p.nodeIds, (Overlooked p r n ↔ Overlooked p q n)) (m : String)
    (hm : m ∈ p.nodeIds) : SameAt r q m := by
  -- Along the edges: sources that show the same give a node the same instances and inputs.
  induction m using hwf.upward.induction with
  | _ m ih =>
    have h : ∀ s ∈ p.parents m, SameAt r q s := fun s hs => by
      have hc := hwf.parents_iff.mp hs
      exact ih s hc (hwf.parent_mem hc)
    have hi := instances_congr hwf hr.told hq.told h
    obtain ⟨n, hn⟩ := Plan.mem_nodeIds_iff.mp hm
    obtain rfl := hwf.id_eq hn
    have hsymm : ∀ s ∈ p.parents n.id, SameAt q r s := fun s hs => (h s hs).symm
    refine ⟨hi, fun k hk => ?_⟩
    by_cases ho : r.Open n.id
    · exact shown_of_open h hn hi hq hwf hr ho
        (open_congr h hn hi hso' hq hat (hover _ hm).mp ho) hk
    · exact shown_of_closed h hn hi hso' hq hwf hso hr hagree ho
        (fun ho' => ho (open_congr hsymm hn hi.symm hso hr hat' (hover _ hm).mpr ho')) hk

lemma shown_of_sameAt (hso : r.Sound p) (hr : Told p payload ans asked r)
    (hq : Told p payload ans asked' q) (h : ∀ n ∈ p.nodeIds, SameAt r q n)
    (hk : key ∈ Keyed.keys r.states) : r.shown? key = q.shown? key := by
  have hsame := h _ (hso.template_mem hk)
  by_cases hn : key ∈ p.nodeIds
  · rw [hso.template_node hn] at hsame
    cases hi : r.hasInstances key with
    | false => exact hsame.node_shown hi
    | true =>
      have hi' : q.hasInstances key = true := (Run.hasInstances_congr hsame.instances).symm.trans hi
      rw [hr.own hi, hq.own hi']
  · have htext := hso.mem_instanceTexts_of_template hk rfl hn
    exact hsame.instance_shown (Run.Sound.hasInstances_of_mem htext) htext

lemma alike_of_sameAt (hso : r.Sound p) (hso' : q.Sound p) (hr : Told p payload ans asked r)
    (hq : Told p payload ans asked' q) (h : ∀ n ∈ p.nodeIds, SameAt r q n) : Alike r q where
  instances t := by
    by_cases ht : t ∈ p.nodeIds
    · exact (h t ht).instances
    · have hnone : ∀ {r : Run}, r.Sound p → Keyed.find? r.instances t = none := by
        intro r hso
        cases hf : Keyed.find? r.instances t with
        | none => rfl
        | some is => exact absurd (hso.counted hf).1 ht
      rw [hnone hso, hnone hso']
  shown key := by
    by_cases hk : key ∈ Keyed.keys r.states
    · exact shown_of_sameAt hso hr hq h hk
    · by_cases hk' : key ∈ Keyed.keys q.states
      · exact (shown_of_sameAt hso' hq hr (fun n hn => (h n hn).symm) hk').symm
      · have hnone : ∀ {r : Run}, key ∉ Keyed.keys r.states → r.shown? key = none := by
          intro r hk
          rw [Run.shown?, Option.map_eq_none_iff]
          exact Keyed.find?_eq_none_iff.mpr hk
        rw [hnone hk, hnone hk']

namespace Alike

variable (h : Alike r q)
include h

lemma sameAt (n : String) : SameAt r q n := ⟨h.instances n, fun k _ => h.shown k⟩

protected lemma symm : Alike q r := ⟨fun t => (h.instances t).symm, fun k => (h.shown k).symm⟩

lemma stalled (hs : Stalled p r m) : Stalled p q m := by
  induction hs with
  | unready hh hr =>
    refine .unready ((h.instances _).symm.trans hh) fun hready => hr ?_
    exact hready.congr fun s _ => h.symm.sameAt s
  | behind hh hs _ ih => exact .behind ((h.instances _).symm.trans hh) hs ih

lemma overlooked (ho : Overlooked p r m) : Overlooked p q m := by
  obtain ⟨hopen, hready, s, hs, hstalled⟩ := ho
  exact ⟨(h.sameAt m).isOpen hopen, hready.congr fun s _ => h.sameAt s, s, hs, h.stalled hstalled⟩

end Alike

/-- Two runs with the same payload and the same answers, in whatever order these come, end alike if,
and only if, they overlook the same nodes. -/
theorem alike_iff_overlooked_iff {c : Canvas} {catalogue : Catalogue} {id id' : String}
    {w w' : World} (hc : c.compile catalogue = .ok p) (h : Answered p payload ans id w)
    (h' : Answered p payload ans id' w') (hacc : w.Accepted id) (hacc' : w'.Accepted id')
    (hr : w.store.run? id = some r) (hq : w'.store.run? id' = some q) (hidle : Idle r)
    (hidle' : Idle q) (hun : Unrejected p r) (hun' : Unrejected p q) :
    Alike r q ↔ ∀ n ∈ p.nodeIds, (Overlooked p r n ↔ Overlooked p q n) := by
  have hwf := Canvas.compile_wellFormed hc
  obtain ⟨r₁, hhosts, hso, hj⟩ := h.account hwf hacc
  obtain ⟨q₁, hhosts', hso', hj'⟩ := h'.account hwf hacc'
  obtain rfl := Option.some.inj (hhosts.row.symm.trans hr)
  obtain rfl := Option.some.inj (hhosts'.row.symm.trans hq)
  obtain ⟨r₂, hrow, _, _, hat⟩ := h.life.attended hwf fun _ _ => rfl
  obtain ⟨q₂, hrow', _, _, hat'⟩ := h'.life.attended hwf fun _ _ => rfl
  obtain rfl := Option.some.inj (hrow.row.symm.trans hr)
  obtain rfl := Option.some.inj (hrow'.row.symm.trans hq)
  refine ⟨fun halike n _ => ⟨halike.overlooked, halike.symm.overlooked⟩, fun hover => ?_⟩
  exact alike_of_sameAt hso hso' hj.told hj'.told
    (sameAt hwf hso hso' hj hj' hat hat' (hidle.agree hidle' hun hun') hover)

def AtRest (p : Plan) (r : Run) : Prop :=
  ∀ e ∈ r.states, e.2.status ≠ .running ∧ e.2.status ≠ .waitingForUser ∧
    (e.2.status = .failed → (p.node? (r.template e.1)).all (fun n => n.kind ≠ .splitter) = true)

instance : Decidable (AtRest p r) :=
  inferInstanceAs (Decidable (∀ e ∈ r.states, e.2.status ≠ .running ∧ e.2.status ≠ .waitingForUser ∧
    (e.2.status = .failed → (p.node? (r.template e.1)).all (fun n => n.kind ≠ .splitter) = true)))

lemma AtRest.idle (h : AtRest p r) : Idle r := by
  have hstate : ∀ {key st}, r.Has key st → st ≠ .running ∧ st ≠ .waitingForUser := by
    rintro key st ⟨s, hs, rfl⟩
    obtain ⟨hrun, hwait, _⟩ := h _ (Keyed.mem_of_find? hs)
    exact ⟨hrun, hwait⟩
  exact fun key => ⟨fun hk => (hstate hk).1 rfl, fun hk => (hstate hk).2 rfl⟩

lemma AtRest.unrejected (h : AtRest p r) : Unrejected p r := by
  intro n key s f hn hk hs hf
  have hall := (h _ (Keyed.mem_of_find? hs)).2.2 hf
  simp [hn, hk] at hall

def workersBeforeCollector : Canvas where
  nodes? := some [.bare "left" .worker [("webhook_url", .str "http://worker")],
    .bare "right" .worker [("webhook_url", .str "http://worker")], .bare "join" .collector []]
  edges? := some [.bare "left" "join" [], .bare "right" "join" []]

def names : Answers := ⟨fun key _ => ⟨.completed, .str key, none⟩, fun _ x => x⟩

theorem collected_alike : ∃ (id : String) (w w' : World) (r q : Run),
    Answered (.ofCanvas workersBeforeCollector []) [] names id w ∧
      Answered (.ofCanvas workersBeforeCollector []) [] names id w' ∧
      w.store.run? id = some r ∧ w'.store.run? id = some q ∧
      r.shown? "join" = some ⟨.completed, .arr [.str "left", .str "right"], none⟩ ∧ Alike r q := by
  -- Whichever worker is done first, the collector gives their results in the order of the edges.
  have hc := Canvas.compile_of_checks (c := workersBeforeCollector) (by decide +kernel)
    (by decide +kernel) (by decide +kernel)
  obtain ⟨⟨id, w₀⟩, hstart, w, hw, w', hw', hacc, hacc', r, hr, q, hq, hrest, hrest', hclosed,
      hclosed', hjoin⟩ := exists_of_any
    (x := accepting.startFor 20 "version" .byHand none none (.ofCanvas workersBeforeCollector))
    (P := fun x => ∃ w ∈ accepting.answerFor names 20 x.1 ["left", "right"] x.2,
      ∃ w' ∈ accepting.answerFor names 20 x.1 ["right", "left"] x.2,
      w.Accepted x.1 ∧ w'.Accepted x.1 ∧ ∃ r ∈ w.store.run? x.1, ∃ q ∈ w'.store.run? x.1,
      AtRest (.ofCanvas workersBeforeCollector []) r ∧
      AtRest (.ofCanvas workersBeforeCollector []) q ∧
      (∀ n ∈ (Plan.ofCanvas workersBeforeCollector []).nodeIds, ¬ r.Open n) ∧
      (∀ n ∈ (Plan.ofCanvas workersBeforeCollector []).nodeIds, ¬ q.Open n) ∧
      r.shown? "join" = some ⟨.completed, .arr [.str "left", .str "right"], none⟩)
    (by decide +kernel)
  have ha : Answered (.ofCanvas workersBeforeCollector []) [] names id w₀ :=
    .of_startFor rfl rfl rfl rfl rfl hstart
  have h := ha.of_answerFor hw
  have h' := ha.of_answerFor hw'
  refine ⟨id, w, w', r, q, h, h', hr, hq, hjoin, ?_⟩
  refine (alike_iff_overlooked_iff hc h h' hacc hacc' hr hq hrest.idle hrest'.idle
    hrest.unrejected hrest'.unrejected).mpr fun n hn => ?_
  exact ⟨fun ho => absurd ho.1 (hclosed n hn), fun ho => absurd ho.1 (hclosed' n hn)⟩

def collectorBehindSplitter : Canvas where
  nodes? := some [.bare "source" .worker [("webhook_url", .str "http://worker")],
    .bare "split" .splitter [("array_path", .str "items")],
    .bare "slow" .worker [("webhook_url", .str "http://worker")],
    .bare "each" .worker [("webhook_url", .str "http://worker")],
    .bare "other" .worker [("webhook_url", .str "http://worker")], .bare "join" .collector []]
  edges? := some [.bare "source" "split" [], .bare "split" "each" [], .bare "slow" "each" [],
    .bare "each" "join" [], .bare "other" "join" []]

def nothingToSplit : Answers where
  report key _ :=
    if key = "source" then ⟨.completed, .obj [("items", .arr [])], none⟩
    else if key = "slow" then ⟨.failed, .null, some "no"⟩
    else ⟨.completed, .str key, none⟩
  answer _ x := x

theorem not_alike_after_swap : ∃ (id : String) (w w' : World) (r q : Run),
    collectorBehindSplitter.compile [] = .ok (.ofCanvas collectorBehindSplitter []) ∧
      Answered (.ofCanvas collectorBehindSplitter []) [] nothingToSplit id w ∧
      Answered (.ofCanvas collectorBehindSplitter []) [] nothingToSplit id w' ∧
      w.Accepted id ∧ w'.Accepted id ∧ w.store.run? id = some r ∧ w'.store.run? id = some q ∧
      Idle r ∧ Idle q ∧ Unrejected (.ofCanvas collectorBehindSplitter []) r ∧
      Unrejected (.ofCanvas collectorBehindSplitter []) q ∧
      r.shown? "join" = some ⟨.completed, .arr [.str "other"], none⟩ ∧
      q.shown? "join" = some ⟨.pending, .null, none⟩ ∧ ¬ Alike r q := by
  -- The collector sees that nothing was fanned out if the other worker is done after that, and is
  -- overlooked if it is done before.
  have hc := Canvas.compile_of_checks (c := collectorBehindSplitter) (by decide +kernel)
    (by decide +kernel) (by decide +kernel)
  obtain ⟨⟨id, w₀⟩, hstart, w, hw, w', hw', hacc, hacc', r, hr, q, hq, hrest, hrest', hjoin,
      hjoin'⟩ := exists_of_any
    (x := accepting.startFor 30 "version" .byHand none none (.ofCanvas collectorBehindSplitter))
    (P := fun x => ∃ w ∈ accepting.answerFor nothingToSplit 30 x.1 ["source", "other", "slow"] x.2,
      ∃ w' ∈ accepting.answerFor nothingToSplit 30 x.1 ["other", "source", "slow"] x.2,
      w.Accepted x.1 ∧ w'.Accepted x.1 ∧ ∃ r ∈ w.store.run? x.1, ∃ q ∈ w'.store.run? x.1,
      AtRest (.ofCanvas collectorBehindSplitter []) r ∧
      AtRest (.ofCanvas collectorBehindSplitter []) q ∧
      r.shown? "join" = some ⟨.completed, .arr [.str "other"], none⟩ ∧
      q.shown? "join" = some ⟨.pending, .null, none⟩)
    (by decide +kernel)
  have ha : Answered (.ofCanvas collectorBehindSplitter []) [] nothingToSplit id w₀ :=
    .of_startFor rfl rfl rfl rfl rfl hstart
  refine ⟨id, w, w', r, q, hc, ha.of_answerFor hw, ha.of_answerFor hw', hacc, hacc', hr, hq,
    hrest.idle, hrest'.idle, hrest.unrejected, hrest'.unrejected, hjoin, hjoin', fun halike => ?_⟩
  have hsame := halike.shown "join"
  rw [hjoin, hjoin'] at hsame
  cases hsame

end Workflow.Engine
