import Workflow.Proofs.Engine.FanOut
import Workflow.Proofs.Engine.Stock

/-! The inputs of requests: what the sources of a node, their mappings and the declared defaults
give, and the elements that parallel instances are seeded with. -/

namespace Workflow

open Run (Lawful)

namespace Canvas

def MapsInVain (c : Canvas) (node input : String) : Prop :=
  input ∈ Validation.mappedInputs c node ∧
    ∀ e ∈ c.edges, e.target = node → input ∈ Keyed.keys e.mapping → e.source ∉ c.executableIds

variable {c : Canvas} {catalogue : Catalogue} {e : CanvasEdge} {i : String}

lemma mem_keys_foldl_addMapping {edges : List CanvasEdge} {data : Keyed Mapping} {key : String} :
    i ∈ Keyed.keys ((Keyed.find? (edges.foldl Plan.addMapping data) key).getD []) ↔
      i ∈ Keyed.keys ((Keyed.find? data key).getD []) ∨
        ∃ e ∈ edges, Plan.edgeKey e.source e.target = key ∧ i ∈ Keyed.keys e.mapping := by
  induction edges generalizing data with
  | nil => simp
  | cons e rest ih =>
    have hone : i ∈ Keyed.keys ((Keyed.find? (Plan.addMapping data e) key).getD []) ↔
        i ∈ Keyed.keys ((Keyed.find? data key).getD []) ∨
          Plan.edgeKey e.source e.target = key ∧ i ∈ Keyed.keys e.mapping := by
      rw [Plan.addMapping, Keyed.find?_set]
      split
      · rename_i hkey
        rw [Option.getD_some, Keyed.mem_keys_merge_iff, hkey]
        simp
      · rename_i hkey
        simp [hkey]
    rw [List.foldl_cons, ih, hone, List.exists_mem_cons_iff, or_assoc]

lemma mem_keys_mappingFor (he : e ∈ c.executableEdges) (hi : i ∈ Keyed.keys e.mapping) :
    i ∈ Keyed.keys ((Plan.ofCanvas c catalogue).mappingFor e.source e.target) :=
  mem_keys_foldl_addMapping.mpr (.inr ⟨e, he, rfl, hi⟩)

lemma mapped_or_default {m : CanvasNode} {input : String × InputSchema}
    (h : c.findings catalogue = []) (hm : m ∈ c.nodes) (hx : m.isExecutable = true)
    (hin : input ∈ (m.declaredInputs catalogue).getD []) (hr : input.2.isRequired = true) :
    input.1 ∈ Validation.mappedInputs c m.id ∨ input.2.hasDefault = true := by
  have hchecks : Validation.checkInputs c catalogue = [] := by
    simp only [findings, List.append_eq_nil_iff] at h
    tauto
  have hnode := List.flatMap_eq_nil_iff.mp hchecks m hm
  simp only [Validation.checkNodeInputs, hx, Bool.not_true, Bool.false_eq_true, if_false,
    List.map_eq_nil_iff, List.filter_eq_nil_iff] at hnode
  have hinput := hnode input hin
  simp only [hr, Bool.true_and, Bool.and_eq_true, Bool.not_eq_true', not_and,
    Bool.not_eq_false] at hinput
  by_cases hmem : input.1 ∈ Validation.mappedInputs c m.id
  · exact .inl hmem
  · exact .inr (hinput (by simpa using hmem))

end Canvas

namespace Engine

def Fed (r : Run) (s : String) : Prop := r.hasInstances s = true ∨ r.Has s .completed

def Supplied (p : Plan) (r : Run) : Prop :=
  ∀ n ∈ p.nodeIds, ¬ r.Has n .pending → ∀ s ∈ p.parents n,
    Fed r s ∨ p.isCollector n = true ∧ ¬ r.Has s .pending

def Element (p : Plan) (r : Run) (k : InstanceKey) (x : Json) : Prop :=
  ∃ key n s items, p.node? (r.template key) = some n ∧ n.kind = .splitter ∧
    k.template ∈ p.children n.id ∧ r.state? key = some s ∧ s.status = .completed ∧
    s.output = .arr items ∧ ∃ i : Nat, k.index = i ∧ items[i]? = some x

def Sown (p : Plan) (r : Run) : Prop :=
  ∀ k s, r.Registered k → p.isWorker k.template = true → r.state? k.text = some s →
    s.status ≠ .completed → Element p r k s.output

inductive Serves (p : Plan) (r : Run) (q : Request) : Prop where
  | whole {n : PlanNode} {members : Keyed Json} (hn : p.node? q.nodeKey = some n)
      (hw : n.kind = .worker) (hi : q.input = .obj members)
      (hd : ∀ i ∈ n.inputs, i.2.hasDefault = true → i.1 ∈ Keyed.keys members)
      (hm : ∀ s ∈ p.parents n.id, ∀ i ∈ Keyed.keys (p.mappingFor s n.id), i ∈ Keyed.keys members)
  | each {n : PlanNode} {k : InstanceKey} {x : Json} {mapping : Mapping}
      (hn : p.node? k.template = some n) (hw : n.kind = .worker) (hk : r.Registered k)
      (ht : k.text = q.nodeKey) (hx : Element p r k x)
      (hm : itemMapping p k.template (p.parents k.template) = .ok mapping)
      (hi : Mapping.instanceInput x mapping = .ok q.input)

/-- What the input of a request is: the object of a node has all that the node requires, save what
edges from presentation nodes alone map; an instance gets its element, or what the mapping of the
edge from the splitter makes of it. -/
inductive Delivers (c : Canvas) (p : Plan) (r : Run) (n : PlanNode) (q : Request) : Prop where
  | node {members : Keyed Json} (hk : q.nodeKey = n.id) (hi : q.input = .obj members)
      (hreq : ∀ i ∈ n.inputs, i.2.isRequired = true → i.1 ∈ Keyed.keys members ∨
        i.2.hasDefault = false ∧ c.MapsInVain n.id i.1)
  | parallel {k : InstanceKey} {x : Json} {mapping : Mapping} (hk : r.instance? q.nodeKey = some k)
      (ht : k.template = n.id) (hx : Element p r k x)
      (hm : itemMapping p n.id (p.parents n.id) = .ok mapping)
      (hi : if mapping = [] then q.input = x else
        ∃ members, q.input = .obj members ∧ ∀ i ∈ Keyed.keys mapping, i ∈ Keyed.keys members)

variable {p : Plan} {now : Instant} {r snap : Run} {n : PlanNode} {id key s t i : String}
  {k : InstanceKey} {x : Json} {q : Request} {source : Status} {mapping : Mapping}
  {given merged members : Keyed Json} {ws : List Write} {o : Outcome} {m : Message}
  {rest : List Message}

/-! What a node gets -/

lemma keys_apply {output : Json} (h : Mapping.apply output mapping = .ok given) :
    Keyed.keys given = Keyed.keys mapping := by
  induction mapping generalizing given with
  | nil =>
    obtain rfl := Except.ok.inj h
    rfl
  | cons e rest ih =>
    obtain ⟨name, path⟩ := e
    simp only [Mapping.apply, bind, Except.bind] at h
    split at h
    · cases h
    · split at h
      · cases h
      · rename_i others ho
        obtain rfl := Except.ok.inj h
        exact congrArg (name :: ·) (ih ho)

lemma keys_mapEach {outputs : List Json} (h : mapEach outputs mapping = .ok given) :
    Keyed.keys given = Keyed.keys mapping := by
  induction mapping generalizing given with
  | nil =>
    obtain rfl := Except.ok.inj h
    rfl
  | cons e rest ih =>
    obtain ⟨name, path⟩ := e
    simp only [mapEach, bind, Except.bind] at h
    split at h
    · cases h
    · split at h
      · cases h
      · rename_i others ho
        obtain rfl := Except.ok.inj h
        exact congrArg (name :: ·) (ih ho)

lemma Fed.contributes (h : Fed r s) (hc : contribution r s mapping = .ok given)
    (hi : i ∈ Keyed.keys mapping) : i ∈ Keyed.keys given := by
  have hne : mapping.isEmpty = false := by
    cases mapping with
    | nil => cases hi
    | cons => rfl
  unfold contribution at hc
  split at hc
  · cases ho : completedOutputs r s with
    | error f =>
      rw [ho] at hc
      cases hc
    | ok outputs =>
      rw [ho] at hc
      simp only [bind, Except.bind, hne, Bool.false_eq_true, if_false] at hc
      rwa [keys_mapEach hc]
  · rename_i hwhole
    obtain ⟨a, ha, hst⟩ := h.resolve_left hwhole
    simp only [ha, hst, hne, ne_eq, not_true_eq_false, if_false, Bool.not_false, if_true] at hc
    cases hap : mapping.apply a.output with
    | error b =>
      rw [hap] at hc
      cases hc
    | ok picked =>
      rw [hap] at hc
      obtain rfl := Except.ok.inj hc
      rwa [keys_apply hap]

lemma mergeFrom_keys {sources : List String} (h : mergeFrom p r t merged sources = .ok members)
    (hfed : ∀ s ∈ sources, Fed r s) :
    (∀ i ∈ Keyed.keys merged, i ∈ Keyed.keys members) ∧
      ∀ s ∈ sources, ∀ i ∈ Keyed.keys (p.mappingFor s t), i ∈ Keyed.keys members := by
  induction sources generalizing merged with
  | nil =>
    obtain rfl := Except.ok.inj h
    exact ⟨fun i hi => hi, by simp⟩
  | cons s rest ih =>
    obtain ⟨hs, hrest⟩ := List.forall_mem_cons.mp hfed
    simp only [mergeFrom, bind, Except.bind] at h
    split at h
    · cases h
    · rename_i given hc
      obtain ⟨hmerged, hmapped⟩ := ih h hrest
      refine ⟨fun i hi => hmerged i (Keyed.mem_keys_merge_iff.mpr (.inl hi)), ?_⟩
      refine List.forall_mem_cons.mpr ⟨fun i hi => ?_, hmapped⟩
      exact hmerged i (Keyed.mem_keys_merge_iff.mpr (.inr (hs.contributes hc hi)))

lemma mem_keys_addDefaults {inputs : Keyed InputSchema} :
    i ∈ Keyed.keys (inputs.foldl addDefault members) ↔
      i ∈ Keyed.keys members ∨ ∃ e ∈ inputs, e.1 = i ∧ e.2.hasDefault = true := by
  induction inputs generalizing members with
  | nil => simp
  | cons e rest ih =>
    have hone : i ∈ Keyed.keys (addDefault members e) ↔
        i ∈ Keyed.keys members ∨ e.1 = i ∧ e.2.hasDefault = true := by
      rw [addDefault, InputSchema.hasDefault]
      cases e.2.default? with
      | none => simp
      | some value =>
        simp only [Option.isSome_some, and_true]
        split
        · rename_i hh
          exact ⟨.inl, fun h => h.elim id fun he => he ▸ Keyed.has_iff_mem_keys.mp hh⟩
        · rw [Keyed.mem_keys_set_iff, or_comm, eq_comm]
    rw [List.foldl_cons, ih, hone]
    simp only [List.mem_cons, exists_eq_or_imp]
    tauto

lemma nodeInput_members (hwf : p.WellFormed) (hfed : ∀ s ∈ p.parents n.id, Fed r s)
    (h : nodeInput p r n = .ok x) : ∃ members, x = .obj members ∧
      (∀ i ∈ n.inputs, i.2.hasDefault = true → i.1 ∈ Keyed.keys members) ∧
      ∀ s ∈ p.parents n.id, ∀ i ∈ Keyed.keys (p.mappingFor s n.id), i ∈ Keyed.keys members := by
  have hdefault : ∀ given, ∀ e ∈ n.inputs, e.2.hasDefault = true →
      e.1 ∈ Keyed.keys (n.inputs.foldl addDefault given) := fun given e he hd =>
    mem_keys_addDefaults.mpr (.inr ⟨e, he, rfl, hd⟩)
  unfold nodeInput at h
  by_cases hentry : p.entryNodes.contains n.id = true
  · rw [if_pos hentry] at h
    obtain rfl := Except.ok.inj h
    have hnone := (hwf.entry_iff.mp (by simpa using hentry)).2
    exact ⟨_, rfl, hdefault _, by simp [hnone]⟩
  · rw [if_neg hentry] at h
    cases hm : mergedInput p r n.id with
    | error f =>
      rw [hm] at h
      cases h
    | ok given =>
      rw [hm] at h
      obtain rfl := Except.ok.inj h
      exact ⟨_, rfl, hdefault _, fun s hs i hi =>
        mem_keys_addDefaults.mpr (.inl ((mergeFrom_keys hm hfed).2 s hs i hi))⟩

/-! What lasts -/

lemma fed_of_done (h : r.Done p t s) :
    Fed r s ∨ p.isCollector t = true ∧ ¬ r.Has s .pending := by
  unfold Run.Done at h
  split at h
  · exact .inl (.inl ‹_›)
  · rcases h with hc | ⟨hcol, hf⟩
    · exact .inl (.inr hc)
    · exact .inr ⟨hcol, fun hp => absurd (hf.unique hp) (by simp)⟩

section Writes

variable {y : Write} (hwf : p.WellFormed) (hso : r.Sound p) (hx : r.Allowed p y)
include hx

lemma hasInstances_after (h : r.hasInstances t = true) : (r.after now y).hasInstances t = true := by
  obtain ⟨is, hf⟩ := Run.hasInstances_iff.mp h
  exact Run.hasInstances_iff.mpr ⟨is, find?_instances_after hx hf⟩

lemma Fed.after (h : Fed r s) : Fed (r.after now y) s :=
  h.imp (hasInstances_after hx) (has_completed_after hx)

include hwf hso

lemma Element.after (h : Element p r k x) : Element p (r.after now y) k x := by
  obtain ⟨key, n, a, items, hn, hk, hc, ha, hst, hrest⟩ := h
  refine ⟨key, n, a, items, ?_, hk, hc, state?_after_of_completed hx ha hst, hst, hrest⟩
  rwa [hso.template_after hwf.child_mem hx (Run.mem_keys_of_state? ha)]

end Writes

lemma endures_supplied (hwf : p.WellFormed) : Endures p (Supplied p) := by
  refine .of_gated hwf fun {now r y} hso hx hready h t ht hp s hs => ?_
  have hnow : Fed r s ∨ p.isCollector t = true ∧ ¬ r.Has s .pending := by
    by_cases hpend : r.Has t .pending
    · have hr := hready t (isClaim_of_begun hx hpend hp) hpend
      rw [hso.template_node ht] at hr
      exact fed_of_done (hr s hs)
    · exact h t ht hpend s hs
  refine hnow.imp (fun hf => hf.after hx) (And.imp_right fun hno hpend => hno ?_)
  exact (pending_before hx (hso.node_mem (hwf.parent_mem (hwf.parents_iff.mp hs))) hpend).1

lemma element_of_spawn {targets : List String} {items : List Json} {a b : NodeState}
    (hwf : p.WellFormed) (hso : r.Sound p) (hx : r.Allowed p (.spawn key targets items))
    (hb : r.state? key = some b) (hn : p.node? (r.template key) = some n)
    (hkind : n.kind = .splitter) (hc : ∀ t ∈ targets, t ∈ p.children n.id)
    (ha : (k.text, a) ∈ spawnedStates targets items) :
    Element p (r.after now (.spawn key targets items)) k a.output := by
  obtain ⟨t, ht, j, x, hx', htext, rfl⟩ := mem_spawnedStates.mp ha
  obtain rfl := InstanceKey.text_injective htext
  have hfan := Run.state?_fanned_of_some targets items hb
  refine ⟨key, n, _, items, ?_, hkind, hc t ht,
    (Run.state?_update hfan).trans (if_pos rfl), rfl, rfl, j, rfl, hx'⟩
  rwa [hso.template_after hwf.child_mem hx (Run.mem_keys_of_state? hb)]

lemma lasts_sown (hwf : p.WellFormed) : Lasts p (Sown p) := by
  refine ⟨fun {now r y} hso hx h k a hk hw ha hne => ?_⟩
  have hstay : Element p r k a.output → Element p (r.after now y) k a.output :=
    fun he => he.after hwf hso hx
  have hmoved : ∀ {key : String} {b : NodeState} {u : NodeUpdate}, r.state? key = some b →
      b.status ≠ .completed → (k.text = key → (u.apply now b).status ≠ .completed →
        (u.apply now b).output = b.output) →
      (r.update now key u).Registered k → (r.update now key u).state? k.text = some a →
      Element p r k a.output := by
    intro key b u hb hbne hout hk ha
    have hk' := Run.registered_update.mp hk
    rw [Run.state?_update hb] at ha
    split at ha
    · rename_i hkey
      obtain rfl := Option.some.inj ha
      rw [hout hkey.symm hne]
      exact h k b hk' hw (hkey ▸ hb) hbne
    · exact h k a hk' hw ha hne
  cases hx with
  | claim hs hm =>
    refine hstay (hmoved hs (fun he => ?_) (fun _ _ => rfl) hk ha)
    rw [he] at hm
    cases hm
  | park _ hs hr hn hux =>
    refine hstay (hmoved hs (by simp [hr]) (fun he _ => ?_) hk ha)
    -- The output of a form changes, but forms are no workers.
    rw [← he, Run.template_text hso.instances_nodup (Run.registered_update.mp hk)] at hn
    simp [Plan.isWorker, hn, hux] at hw
  | complete _ hs hr =>
    exact hstay (hmoved hs (by simp [hr]) (fun _ hno => absurd rfl hno) hk ha)
  | fail _ hs hr => exact hstay (hmoved hs (by simp [hr]) (fun _ _ => rfl) hk ha)
  | @spawn key b n targets items hs hr hn hkind hc hf =>
    have hk' := Run.registered_update.mp hk
    have hfan := Run.state?_fanned_of_some targets items hs
    rw [Run.after, Run.state?_update hfan] at ha
    split at ha
    · obtain rfl := Option.some.inj ha
      exact absurd rfl hne
    · rw [Run.state?_fanned] at ha
      cases hold : r.state? k.text with
      | some c =>
        rw [hold, Option.some_or] at ha
        have hreg := (Run.instance_of_keys_fanned hf (Run.mem_keys_of_state? hold)).mp hk'
        exact hstay (h k a hreg hw (hold.trans ha) hne)
      | none =>
        rw [hold, Option.none_or] at ha
        exact element_of_spawn hwf hso (.spawn items hs hr hn hkind hc hf) hs hn hkind hc
          (Keyed.mem_of_find? ha)
  | note => exact h k a hk hw ha hne

lemma lasts_serves (hwf : p.WellFormed) : Lasts p fun r => Serves p r q := by
  refine ⟨fun hso hx h => ?_⟩
  cases h with
  | whole hn hw hi hd hm => exact .whole hn hw hi hd hm
  | each hn hw hk ht he hm hi => exact .each hn hw (hk.after hx) ht (he.after hwf hso hx) hm hi

/-! What is sent -/

lemma Started.sends (h : Started p now r n key x source ws o) (hq : q ∈ o.requests) :
    q.runId = r.id ∧ q.nodeKey = key ∧ q.input = x ∧ n.kind = .worker := by
  cases h with
  | skipped => cases hq
  | worked hs hw =>
    cases hw with
    | sent hk hr hkey hi =>
      obtain rfl := List.mem_singleton.mp hq
      exact ⟨hr.trans Run.sameHeader_update.id, hkey, hi, hk⟩
    | parked | unsplit | whole | rejected | split | uncollected | collected => cases hq

lemma FiredAll.sends {l : List String} (h : FiredAll p now snap n mapping r l ws o)
    (hid : snap.id = r.id) (hq : q ∈ o.requests) :
    q.runId = r.id ∧ n.kind = .worker ∧ q.nodeKey ∈ l ∧ ∃ s, snap.state? q.nodeKey = some s ∧
      s.status = .pending ∧ Mapping.instanceInput s.output mapping = .ok q.input := by
  induction h with
  | nil => cases hq
  | passed _ _ ih =>
    obtain ⟨hr, hw, hl, hrest⟩ := ih hid hq
    exact ⟨hr, hw, List.mem_cons_of_mem _ hl, hrest⟩
  | @fired r key rest s input ws ws' o o' hs hp hi hstart _ ih =>
    rcases List.mem_append.mp hq with hq | hq
    · obtain ⟨hr, hkey, hin, hw⟩ := hstart.sends hq
      subst hkey hin
      exact ⟨hr, hw, List.mem_cons_self, s, hs, hp, hi⟩
    · have hsame : (r.afterAll now ws).id = r.id := (Run.sameHeader_afterAll ws).id
      obtain ⟨hr, hw, hl, hrest⟩ := ih (hid.trans hsame.symm) hq
      exact ⟨hr.trans hsame, hw, List.mem_cons_of_mem _ hl, hrest⟩

section Handled

variable (hwf : p.WellFormed) (hso : r.Sound p) (hsupplied : Supplied p r) (hsown : Sown p r)

include hwf in
lemma Serves.of_nodeInput (hn : p.node? q.nodeKey = some n) (hw : n.kind = .worker)
    (hfed : ∀ s ∈ p.parents n.id, Fed r s) (hin : nodeInput p r n = .ok q.input) :
    Serves p r q := by
  obtain ⟨members, hi, hd, hm⟩ := nodeInput_members hwf hfed hin
  exact .whole hn hw hi hd hm

include hsown in
lemma Serves.of_element {a : NodeState} (hn : p.node? k.template = some n)
    (hw : n.kind = .worker) (hk : r.Registered k) (ht : k.text = q.nodeKey)
    (ha : r.state? q.nodeKey = some a) (hne : a.status ≠ .completed)
    (hm : itemMapping p k.template (p.parents k.template) = .ok mapping)
    (hi : Mapping.instanceInput a.output mapping = .ok q.input) : Serves p r q :=
  .each hn hw hk ht (hsown k a hk (by simp [Plan.isWorker, hn, hw]) (ht ▸ ha) hne) hm hi

include hwf hso hsupplied hsown

lemma Handled.serves (h : Handled p now r m ws o) (hq : Poised p r (m :: rest))
    (hmem : q ∈ o.requests) : q.runId = r.id ∧ Serves p r q := by
  have hfed : ∀ {n}, p.node? n.id = some n → n.kind = .worker →
      (∀ s ∈ p.parents n.id, Fed r s ∨ p.isCollector n.id = true ∧ ¬ r.Has s .pending) →
      ∀ s ∈ p.parents n.id, Fed r s := by
    intro n hn hw hall s hs
    refine (hall s hs).resolve_right fun hcol => ?_
    simp [Plan.isCollector, hn, hw] at hcol
  cases h with
  | walked | strayed | missing | hollow | ignored | reported | resumed | reconciled => cases hmem
  | instances hn hi _ hm hf =>
    obtain ⟨hr, hw, hl, a, ha, hst, hin⟩ := hf.sends rfl hmem
    obtain ⟨k, hk, rfl, ht⟩ := Run.mem_instanceTexts.mp hl
    exact ⟨hr, .of_element hsown hn hw hk ht ha (by simp [hst]) hm hin⟩
  | @whole t n input ws o hn hi hin hstart =>
    obtain ⟨hr, hkey, rfl, hw⟩ := hstart.sends hmem
    subst hkey
    have hid := hwf.id_eq hn
    refine ⟨hr, .of_nodeInput hwf hn hw (hfed (hid ▸ hn) hw fun s hs => ?_) hin⟩
    exact fed_of_done (by rw [hid] at hs ⊢; exact hq.ready s hs)
  | @retried key n a input ws o ha hst hn hin hstart =>
    obtain ⟨hr, hkey, rfl, hw⟩ := hstart.sends hmem
    subst hkey
    refine ⟨hr, ?_⟩
    cases hinst : r.instance? q.nodeKey with
    | some k =>
      obtain ⟨hk, ht⟩ := (Run.instance?_eq_some_iff hso.instances_nodup).mp hinst
      rw [← ht] at hin
      obtain ⟨mapping, hm, hi⟩ := inputFor_instance hso hk hin
      rw [← ht, Run.template_text hso.instances_nodup hk] at hn
      exact .of_element hsown hn hw hk ht ha (by simp [hst]) hm hi
    | none =>
      rw [inputFor, hinst] at hin
      have ht : r.template q.nodeKey = q.nodeKey := by simp [Run.template, hinst]
      rw [ht] at hn
      have hid := hwf.id_eq hn
      have hpend : ¬ r.Has q.nodeKey .pending := by simp [Run.has_iff ha, hst]
      have hnode := Plan.mem_nodeIds_iff.mpr ⟨n, hn⟩
      rw [← hid] at hpend hnode
      exact .of_nodeInput hwf hn hw (hfed (hid.symm ▸ hn) hw (hsupplied n.id hnode hpend)) hin

end Handled

lemma supplied_newRun {v : FlowVersion} {trigger : Trigger} {entityId : Option String}
    (hwf : v.plan.WellFormed) : Supplied v.plan (newRun id v trigger entityId now) := by
  intro t ht hp
  obtain ⟨a, ha⟩ := (newRun_sound hwf id trigger entityId now).node_state ht
  exact absurd ⟨a, ha, has_newRun ⟨a, ha, rfl⟩⟩ hp

lemma stock_supplies : Stock (fun p r => Supplied p r ∧ Sown p r) Serves where
  born id v trigger entityId now hwf := by
    refine ⟨supplied_newRun hwf, fun k a hk => ?_⟩
    obtain ⟨is, hf, _⟩ := Run.registered_iff.mp hk
    cases hf
  endures hwf := (endures_supplied hwf).and ((lasts_sown hwf).endures hwf)
  lasts := lasts_serves
  sends hwf hso hf hq hm hl hj q hmem := by
    obtain ⟨hid, hserves⟩ := hm.serves hwf hso hj.1 hj.2 hq hmem
    exact ⟨hid, (lasts_serves hwf).afterAll hwf hso hl hserves⟩

/-! What a compiled canvas makes of it -/

lemma Serves.node (hso : r.Sound p) (h : Serves p r q) :
    ∃ n, p.node? (r.template q.nodeKey) = some n ∧ n.kind = .worker := by
  cases h with
  | whole hn hw =>
    refine ⟨_, ?_, hw⟩
    rwa [hso.template_node (Plan.mem_nodeIds_iff.mpr ⟨_, hn⟩)]
  | each hn hw hk ht =>
    refine ⟨_, ?_, hw⟩
    rwa [← ht, Run.template_text hso.instances_nodup hk]

section Compiled

variable {c : Canvas} {catalogue : Catalogue} (hc : c.compile catalogue = .ok p)
include hc

lemma required_or_vain (hn : p.node? n.id = some n)
    (hd : ∀ i ∈ n.inputs, i.2.hasDefault = true → i.1 ∈ Keyed.keys members)
    (hm : ∀ s ∈ p.parents n.id, ∀ i ∈ Keyed.keys (p.mappingFor s n.id), i ∈ Keyed.keys members) :
    ∀ i ∈ n.inputs, i.2.isRequired = true → i.1 ∈ Keyed.keys members ∨
      i.2.hasDefault = false ∧ c.MapsInVain n.id i.1 := by
  intro i hin hr
  obtain ⟨hf, rfl⟩ := Canvas.compile_eq_ok hc
  have hnodup := Canvas.nodup_of_duplicateNodes (Canvas.checks_of_findings hf).1
  obtain ⟨m, hmem, hx, hmid, heq⟩ := Canvas.exists_of_node? hnodup hn
  have hin' : i ∈ (m.declaredInputs catalogue).getD [] := by
    rw [heq] at hin
    exact hin
  by_cases hdef : i.2.hasDefault = true
  · exact .inl (hd i hin hdef)
  · have hmapped := (Canvas.mapped_or_default hf hmem hx hin' hr).resolve_right hdef
    rw [hmid] at hmapped
    by_cases hall : ∀ e ∈ c.edges, e.target = n.id → i.1 ∈ Keyed.keys e.mapping →
        e.source ∉ c.executableIds
    · exact .inr ⟨by simpa using hdef, hmapped, hall⟩
    · -- An edge between executable nodes maps it, and so the source gives it.
      push Not at hall
      obtain ⟨e, he, htarget, hie, hsource⟩ := hall
      have hexec : e ∈ c.executableEdges := by
        refine Canvas.mem_executableEdges.mpr ⟨he, hsource, ?_⟩
        have hnode := Plan.mem_nodeIds_iff.mpr ⟨n, hn⟩
        rwa [htarget, ← Canvas.nodeIds_ofCanvas hnodup]
      refine .inl (hm e.source ?_ i.1 ?_)
      · exact Canvas.mem_parents_ofCanvas.mpr ⟨e, hexec, rfl, htarget⟩
      · rw [← htarget]
        exact Canvas.mem_keys_mappingFor hexec hie

lemma Serves.delivers (hso : r.Sound p) (h : Serves p r q)
    (hn : p.node? (r.template q.nodeKey) = some n) : Delivers c p r n q := by
  have hwf := Canvas.compile_wellFormed hc
  have hid := hwf.id_eq hn
  cases h with
  | @whole m members hm hw hi hd hmap =>
    rw [hso.template_node (Plan.mem_nodeIds_iff.mpr ⟨m, hm⟩)] at hn hid
    obtain rfl := Option.some.inj (hn.symm.trans hm)
    exact .node hid.symm hi (required_or_vain hc (hid.symm ▸ hn) hd hmap)
  | @each m k x mapping hm hw hk ht hx hmap hi =>
    rw [← ht, Run.template_text hso.instances_nodup hk] at hn hid
    refine .parallel ((Run.instance?_eq_some_iff hso.instances_nodup).mpr ⟨hk, ht⟩) hid.symm hx
      (hid.symm ▸ hmap) ?_
    cases mapping with
    | nil =>
      obtain rfl := Except.ok.inj hi
      exact (if_pos rfl).mpr rfl
    | cons e rest =>
      rw [if_neg (by simp)]
      cases hap : Mapping.apply x (e :: rest) with
      | error b => simp [Mapping.instanceInput, hap, bind, Except.bind] at hi
      | ok members =>
        refine ⟨members, ?_, fun i hin => keys_apply hap ▸ hin⟩
        simpa [Mapping.instanceInput, hap, bind, Except.bind, pure, Except.pure] using hi.symm

end Compiled

/-- Whatever operations there are, and whether they return or fail: a request for a worker itself
carries an object with all inputs that the worker requires, but for those without a default that
only edges from presentation nodes map. A request for an instance carries its element of the list
that a splitter is completed with, or an object with all that the edge from the splitter maps. -/
theorem requests_carry_inputs {w : World} {ops : List (Engine × Operation)} (hw : Fresh w)
    (hops : ∀ op ∈ ops, ¬ op.2.IsFiring) :
    ∀ s ∈ (afterOperations w ops).sent, ∃ r v n,
      (afterOperations w ops).store.run? s.request.runId = some r ∧
      (afterOperations w ops).store.version? r.versionId = some v ∧
      v.plan.node? (r.template s.request.nodeKey) = some n ∧ n.kind = .worker ∧
      ∀ c catalogue, Canvas.compile c catalogue = .ok v.plan →
        Delivers c v.plan r n s.request := by
  intro s hs
  have hstocked := stocked_afterOperations stock_supplies hw.stocked hops
  obtain ⟨r, v, hr, hv, hserves⟩ := hstocked.sent s hs
  obtain ⟨v', hv', hstands⟩ := hstocked.row hr
  obtain rfl := Option.some.inj (hv.symm.trans hv')
  obtain ⟨n, hn, hk⟩ := hserves.node hstands.sound
  exact ⟨r, v, n, hr, hv, hn, hk, fun c catalogue hc => hserves.delivers hc hstands.sound hn⟩

def needingText (id : String) (default? : Option DefaultValue) : CanvasNode :=
  let text : InputSchema := ⟨none, some true, none, default?⟩
  let worker := CanvasNode.bare id .worker [("webhook_url", .str "http://worker")]
  { worker with data? := some { worker.data with inputs? := some (some [("text", text)]) } }

def textFromWorker : Canvas where
  nodes? := some [.bare "first" .worker [("webhook_url", .str "http://worker")],
    needingText "second" none]
  edges? := some [.bare "first" "second" [("text", "answer")]]

theorem input_mapped_from_worker : ∃ (id : String) (w : World) (s : Sending) (r : Run)
    (v : FlowVersion) (n : PlanNode) (c : Canvas),
    w = afterOperations (.ofCanvas textFromWorker) [(accepting, .start "version" .byHand none none),
      (accepting, .call id (.callback "first" ⟨.completed, .obj [("answer", .str "a")], none⟩))] ∧
    s ∈ w.sent ∧ s.request.nodeKey = "second" ∧ w.store.run? s.request.runId = some r ∧
    v.plan.node? (r.template s.request.nodeKey) = some n ∧ Delivers c v.plan r n s.request := by
  have hc := Canvas.compile_of_checks (c := textFromWorker) (by decide +kernel) (by decide +kernel)
    (by decide +kernel)
  have hw : Fresh (.ofCanvas textFromWorker) := fresh_ofCanvas hc
  obtain ⟨⟨id, w⟩, hstart, w', hcall, s, hs, hkey, r, hr, v, hv, hplan⟩ := exists_of_any
    (x := accepting.startFor 20 "version" .byHand none none (.ofCanvas textFromWorker))
    (P := fun x => ∃ w ∈ accepting.returnFor 20 x.1
      (.callback "first" ⟨.completed, .obj [("answer", .str "a")], none⟩) x.2,
      ∃ s ∈ w.sent, s.request.nodeKey = "second" ∧ ∃ r ∈ w.store.run? s.request.runId,
        ∃ v ∈ w.store.version? r.versionId, v.plan = .ofCanvas textFromWorker [])
      (by decide +kernel)
  have hend : afterOperations (.ofCanvas textFromWorker)
      [(accepting, .start "version" .byHand none none),
        (accepting, .call id
          (.callback "first" ⟨.completed, .obj [("answer", .str "a")], none⟩))] = w' := by
    simp only [afterOperations, List.foldl_cons, List.foldl_nil,
      (Operation.start_of_startFor hstart).1, (Operation.call_of_returnFor hcall).1]
  have hops : ∀ op ∈ [(accepting, Operation.start "version" .byHand none none),
      (accepting, .call id (.callback "first" ⟨.completed, .obj [("answer", .str "a")], none⟩))],
      ¬ op.2.IsFiring := by simp [Operation.IsFiring]
  obtain ⟨r', v', n, hr', hv', hn, _, hdelivers⟩ :=
    requests_carry_inputs hw hops s (by rwa [hend])
  rw [hend] at hr' hv'
  obtain rfl := Option.some.inj (hr.symm.trans hr')
  obtain rfl := Option.some.inj (hv.symm.trans hv')
  exact ⟨id, w', s, r, v, n, textFromWorker, hend.symm, hs, hkey, hr, hn,
    hdelivers textFromWorker [] (hplan ▸ hc)⟩

def textFannedOut : Canvas where
  nodes? := some [.bare "split" .splitter [("array_path", .str "items")],
    needingText "each" (some (.json (.str "none"))), .bare "join" .collector []]
  edges? := some [.bare "split" "each" [], .bare "each" "join" []]

theorem element_lacks_required_input : ∃ (id : String) (w : World) (s : Sending) (r : Run)
    (v : FlowVersion) (n : PlanNode),
    textFannedOut.compile [] = .ok v.plan ∧ Fresh (.ofCanvas textFannedOut) ∧
    w = afterOperations (.ofCanvas textFannedOut)
      [(accepting, .start "version" .byHand none (some listOfTwo))] ∧
    s ∈ w.sent ∧ s.request.runId = id ∧ w.store.run? id = some r ∧
    w.store.version? r.versionId = some v ∧
    v.plan.node? (r.template s.request.nodeKey) = some n ∧ n.kind = .worker ∧
    (∃ i ∈ n.inputs, i.1 = "text" ∧ i.2.isRequired = true) ∧
    ¬ ∃ members, s.request.input = .obj members ∧ "text" ∈ Keyed.keys members := by
  -- The request of the instance carries its element, which is no object.
  have hc := Canvas.compile_of_checks (c := textFannedOut) (by decide +kernel) (by decide +kernel)
    (by decide +kernel)
  obtain ⟨⟨id, w⟩, hstart, s, hs, hid, r, hr, v, hv, hplan, n, hn, hk, hi, hin⟩ := exists_of_any
    (x := accepting.startFor 20 "version" .byHand none (some listOfTwo) (.ofCanvas textFannedOut))
    (P := fun x => ∃ s ∈ x.2.sent, s.request.runId = x.1 ∧ ∃ r ∈ x.2.store.run? x.1,
      ∃ v ∈ x.2.store.version? r.versionId, v.plan = .ofCanvas textFannedOut [] ∧
        ∃ n ∈ v.plan.node? (r.template s.request.nodeKey), n.kind = .worker ∧
          (∃ i ∈ n.inputs, i.1 = "text" ∧ i.2.isRequired = true) ∧ s.request.input = .str "a")
      (by decide +kernel)
  refine ⟨id, w, s, r, v, n, hplan ▸ hc, fresh_ofCanvas hc, ?_, hs, hid, hr, hv, hn, hk, hi, ?_⟩
  · simp only [afterOperations, List.foldl_cons, List.foldl_nil,
      (Operation.start_of_startFor hstart).1]
  · rintro ⟨members, he, _⟩
    rw [hin] at he
    cases he

end Engine

end Workflow
