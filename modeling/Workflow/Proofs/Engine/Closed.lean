import Workflow.Proofs.Engine.Followed

/-! Whether the branches of a collector have all come to an end when the collector itself does. -/

namespace Workflow

open Run (Lawful)

namespace Event

def Finishes (key : String) (e : Event) : Prop :=
  e.kind = .nodeStatusChanged ∧ e.nodeKey = some key ∧
    (e.status = some Status.completed.name ∨ e.status = some Status.failed.name)

def Restarts (key : String) (e : Event) : Prop :=
  e.kind = .nodeStatusChanged ∧ e.nodeKey = some key ∧ e.tellsFrom .failed ∧
    e.status = some Status.running.name

instance (key : String) (e : Event) : Decidable (e.Finishes key) :=
  inferInstanceAs (Decidable (_ ∧ _ ∧ _))

instance (key : String) (e : Event) : Decidable (e.Restarts key) :=
  inferInstanceAs (Decidable (_ ∧ _ ∧ _ ∧ _))

end Event

def Run.Closed (p : Plan) (r : Run) (n : String) : Prop :=
  ∀ s ∈ p.parents n, ∀ k ∈ r.keysOf s, r.Settled k

instance {p : Plan} {r : Run} {n : String} : Decidable (r.Closed p n) :=
  inferInstanceAs (Decidable (∀ s ∈ p.parents n, ∀ k ∈ r.keysOf s, r.Settled k))

def JustStarted (p : Plan) (r₀ : Run) (log : List Event) (key : String) : Prop :=
  ∃ first s, log = first ++ [s] ∧ (s.Begins key ∨ s.Restarts key) ∧
    (r₀.replay log).template key = (r₀.replay first).template key ∧
    ((r₀.replay log).Closed p ((r₀.replay first).template key) ↔
      (r₀.replay first).Closed p ((r₀.replay first).template key))

def Prompt (p : Plan) (r₀ : Run) (log : List Event) : Prop :=
  ∀ before e rest key, log = before ++ e :: rest → e.Finishes key →
    p.isCollector ((r₀.replay before).template key) = true → JustStarted p r₀ before key

namespace Engine

inductive Calm (p : Plan) (r : Run) : Write → Prop where
  | begun {key : String} : Calm p r (.move key (.toStatus .running))
  | moved {key : String} {u : NodeUpdate} (hn : p.isCollector (r.template key) = false) :
      Calm p r (.move key u)
  | spawned {key : String} {targets : List String} {items : List Json}
      (hn : p.isCollector (r.template key) = false) : Calm p r (.spawn key targets items)
  | noted {e : Event} (he : e.kind = .entityMoved) : Calm p r (.note e)

inductive Brisk (p : Plan) (now : Instant) : Run → List Write → Prop where
  | nil {r} : Brisk p now r []
  | calm {r x ws} (hx : Calm p r x) (h : Brisk p now (r.after now x) ws) : Brisk p now r (x :: ws)
  | joined {r key u ws} (hs : r.Has key .pending ∨ r.Has key .failed)
      (h : Brisk p now ((r.update now key (.toStatus .running)).update now key u) ws) :
      Brisk p now r (.move key (.toStatus .running) :: .move key u :: ws)

def Uncollecting (p : Plan) (r : Run) : Prop :=
  ∀ key, p.isCollector (r.template key) = true → ¬ r.Has key .running

end Engine

variable {p : Plan} {now : Instant} {q r r' r₀ : Run} {n : PlanNode} {key k t : String} {st : Status}
  {s : NodeState} {x : Write} {ws xs : List Write} {log es : List Event} {e : Event}
  {u : NodeUpdate}

lemma Event.finishes_statusChanged {a b : Status} {error : Option String} :
    (Store.statusChanged now r key a b error).Finishes k ↔ key = k ∧ b.isTerminal = true := by
  have hname : ∀ {s t : Status}, s.name = t.name ↔ s = t :=
    ⟨Status.name_injective, congrArg Status.name⟩
  simp only [Finishes, Store.statusChanged, Option.some.injEq, hname, true_and]
  cases b <;> simp [Status.isTerminal]

namespace Run

lemma Ready.closed {n : String} (h : r.Ready p n) : r.Closed p n :=
  fun s hs _ hk => (h s hs).settled hk

lemma Mirrors.closed (h : q.Mirrors r) {n : String} : q.Closed p n ↔ r.Closed p n := by
  simp only [Closed, keysOf, h.hasInstances, h.instanceTexts, h.settled]

lemma template_heed (he : e.kind = .nodeStatusChanged) : (r.heed e).template k = r.template k := by
  unfold heed
  split
  · cases e.status.bind Status.ofName? with
    | none => rfl
    | some st => exact Sound.template_update
  · rename_i hkind _
    rw [he] at hkind
    cases hkind
  · rfl

lemma Mirrors.afterAll (h : q.Mirrors r) (hl : Lawful p now r ws) :
    (q.replay (r.entriesOf now ws)).Mirrors (r.afterAll now ws) := by
  induction hl generalizing q with
  | nil => exact h
  | cons hx _ ih =>
    rw [entriesOf, replay_append]
    exact ih (h.after hx)

lemma closed_update (hwf : p.WellFormed) (hso : r.Sound p) (hk : r.state? key = some s)
    (hu : u.status = some st) :
    (r.update now key u).Closed p (r.template key) ↔ r.Closed p (r.template key) := by
  refine forall₂_congr fun s hs => ?_
  have hkeys : (r.update now key u).keysOf s = r.keysOf s :=
    keysOf_congr (by rw [instances_update])
  rw [hkeys]
  refine forall₂_congr fun k hk' => ?_
  have hne : key ≠ k := by
    rintro rfl
    have hchild := hwf.parents_iff.mp hs
    rw [hso.template_keysOf (hwf.parent_mem hchild) hk'] at hchild
    exact hwf.not_mem_children hchild
  rw [Settled, Settled, Engine.has_update hk hu, Engine.has_update hk hu, if_neg hne, if_neg hne]

end Run

lemma Prompt.append (h : Prompt p r₀ log)
    (hes : ∀ {before e rest key}, es = before ++ e :: rest → e.Finishes key →
      p.isCollector ((r₀.replay (log ++ before)).template key) = true →
      JustStarted p r₀ (log ++ before) key) : Prompt p r₀ (log ++ es) := by
  intro before e rest key heq he hc
  -- The entry is among the new ones, or among those of the log.
  rcases List.append_eq_append_iff.mp heq with ⟨mid, rfl, hes'⟩ | ⟨mid, rfl, hmid⟩
  · exact hes hes' he hc
  · cases mid with
    | nil =>
      have hstart := @hes [] _ _ _ hmid.symm he
      rw [List.append_nil, List.append_nil] at hstart
      exact hstart hc
    | cons a mid =>
      obtain ⟨rfl, rfl⟩ := List.cons.inj hmid
      exact h _ _ _ _ rfl he hc

namespace Engine

open Store (holdsRevision)

lemma Brisk.append (h : Brisk p now r ws) (h' : Brisk p now (r.afterAll now ws) xs) :
    Brisk p now r (ws ++ xs) := by
  induction h with
  | nil => exact h'
  | calm hx _ ih => exact .calm hx (ih h')
  | joined hs _ ih => exact .joined hs (ih h')

lemma isCollector_of_node (hn : p.node? t = some n) :
    p.isCollector t = true ↔ n.kind = .collector := by
  simp [Plan.isCollector, hn]

/-! What writes make of collectors -/

variable {input : Json} {source : Status} {o : Outcome} {m : Message} {queue : List Message}

lemma Worked.brisk (h : Worked p r n key input ws o) (hn : p.node? (r.template key) = some n)
    (hk : n.kind ≠ .collector) : Brisk p now r ws := by
  have hcalm : p.isCollector (r.template key) = false := by
    simpa [Plan.isCollector, hn] using hk
  cases h with
  | sent => exact .nil
  | parked | unsplit | whole | rejected => exact .calm (.moved hcalm) .nil
  | split => exact .calm (.spawned hcalm) .nil
  | uncollected hk' | collected hk' => exact absurd hk' hk

lemma Started.brisk (h : Started p now r n key input source ws o)
    (hsource : source = .pending ∨ source = .failed) (hn : p.node? (r.template key) = some n) :
    Brisk p now r ws := by
  cases h with
  | skipped => exact .nil
  | worked hs hw =>
    by_cases hk : n.kind = .collector
    · have hs' : r.Has key .pending ∨ r.Has key .failed := by
        rcases hsource with rfl | rfl
        · exact .inl hs
        · exact .inr hs
      cases hw with
      | sent hk' | parked hk' | unsplit hk' | whole hk' | rejected hk' | split hk' =>
        rw [hk] at hk'
        cases hk'
      | uncollected | collected => exact .joined hs' .nil
    · have hn' : p.node? ((r.update now key (.toStatus .running)).template key) = some n := by
        rwa [Run.Sound.template_update]
      exact .calm .begun (hw.brisk hn' hk)

lemma brisk_notes (h : ∀ x ∈ ws, ∃ e : Event, x = .note e ∧ e.kind = .entityMoved) :
    Brisk p now r ws := by
  induction ws with
  | nil => exact .nil
  | cons x rest ih =>
    obtain ⟨⟨e, rfl, he⟩, hrest⟩ := List.forall_mem_cons.mp h
    exact .calm (.noted he) (ih hrest)

lemma Interrupted.brisk (h : Interrupted now r n key source ws) : Brisk p now r ws := by
  cases h with
  | unclaimed => exact .nil
  | claimed => exact .calm .begun .nil

lemma Uncollecting.update (h : Uncollecting p r) (hs : r.state? key = some s)
    (hu : u.status = some st) (hst : p.isCollector (r.template key) = true → st ≠ .running) :
    Uncollecting p (r.update now key u) := by
  intro k hk hrun
  rw [Run.Sound.template_update] at hk
  rw [has_update hs hu] at hrun
  split at hrun
  · rename_i he
    exact hst (he ▸ hk) hrun
  · exact h k hk hrun

lemma Stirs.uncollecting (h : Stirs p n key r r') (hs : r.state? key = some s)
    (hrest : p.isCollector (r.template key) = true → ¬ r'.Has key .running)
    (hidle : Uncollecting p r) : Uncollecting p r' := by
  intro k hc hrun
  by_cases hkey : k = key
  · subst hkey
    rw [(h.stable (Run.mem_keys_of_state? hs)).2] at hc
    exact hrest hc hrun
  · by_cases hmem : k ∈ Keyed.keys r.states
    · exact hidle k ((h.stable hmem).2 ▸ hc) ((h.has_iff hkey hmem).mp hrun)
    · exact absurd (h.pending_of_new hkey hmem hrun) (by simp)

lemma Worked.collector_ends (h : Worked p r n key input ws o) (hs : r.Has key .running)
    (hk : n.kind = .collector) : ¬ (r.afterAll now ws).Has key .running := by
  obtain ⟨s, hs, _⟩ := hs
  cases h with
  | sent hk' | parked hk' | unsplit hk' | whole hk' | rejected hk' | split hk' =>
    rw [hk] at hk'
    cases hk'
  | uncollected | collected =>
    intro hrun
    rw [Run.afterAll_cons, Run.afterAll_nil, Run.after, has_update hs rfl, if_pos rfl] at hrun
    cases hrun

section Messages

variable (hwf : p.WellFormed) (hso : r.Sound p)
include hwf hso

lemma Started.uncollecting (h : Started p now r n key input source ws o)
    (hn : p.node? (r.template key) = some n) (hidle : Uncollecting p r) :
    Uncollecting p (r.afterAll now ws) := by
  by_cases hs : r.Has key source
  · have hstirs := h.stirs hwf hso hs hn
    obtain ⟨s, hstate, _⟩ := id hs
    refine hstirs.uncollecting hstate (fun hc => ?_) hidle
    have hk := (isCollector_of_node hn).mp hc
    cases h with
    | skipped hno => exact absurd hs hno
    | worked _ hw => exact hw.collector_ends (has_claimed now hs) hk
  · cases h with
    | skipped => exact hidle
    | worked hs' => exact absurd hs' hs

structure Clears (p : Plan) (now : Instant) (r : Run) (ws : List Write) : Prop where
  brisk : Brisk p now r ws
  left : holdsRevision (r.afterAll now ws).revision = true → Uncollecting p (r.afterAll now ws)

omit hwf hso in
lemma Clears.append (h : Brisk p now r ws) (h' : Clears p now (r.afterAll now ws) xs) :
    Clears p now r (ws ++ xs) where
  brisk := h.append h'.brisk
  left hrev := by
    rw [Run.afterAll_append] at hrev ⊢
    exact h'.left hrev

omit hwf hso in
lemma Interrupted.clears (h : Interrupted now r n key source ws) (hidle : Uncollecting p r) :
    Clears p now r ws where
  brisk := h.brisk
  left hrev := by
    rcases h.row with heq | hno
    · rwa [heq]
    · rw [hno] at hrev
      cases hrev

lemma FiredSome.clears {snap : Run} {mapping : Mapping} {l : List String}
    (h : FiredSome p now snap n mapping r l ws) (hn : p.node? t = some n)
    (hl : ∀ k ∈ l, k ∈ Keyed.keys r.states ∧ r.template k = t) (hidle : Uncollecting p r) :
    Clears p now r ws :=
  h.induct (P := fun r ws => Uncollecting p r → Clears p now r ws) hwf hso hn hl
    (fun _ hidle => ⟨.nil, fun _ => hidle⟩) Interrupted.clears
    (fun hso hn' hw ih hidle =>
      .append (hw.brisk (.inl rfl) hn') (ih (hw.uncollecting hwf hso hn' hidle))) hidle

lemma Handled.clears (hforms : Forms p r) (hidle : Uncollecting p r) (h : Handled p now r m ws o) :
    Clears p now r ws := by
  cases h with
  | walked | strayed | missing | hollow | ignored | reconciled => exact ⟨.nil, fun _ => hidle⟩
  | instances hn hi hne hm hf =>
    exact hf.firedSome.clears hwf hso hn (fun k hk => hso.known_instanceText hk) hidle
  | whole hn hi hin hs =>
    have hn' := (hso.template_node (Plan.mem_nodeIds_iff.mpr ⟨_, hn⟩)).symm ▸ hn
    exact ⟨hs.brisk (.inl rfl) hn', fun _ => hs.uncollecting hwf hso hn' hidle⟩
  | @reported key c notes hs hnotes =>
    have hcalm : p.isCollector (r.template key) = false := by
      simpa using fun hc => hidle key hc hs
    obtain ⟨s, hstate, _⟩ := id hs
    have hrow : r.afterAll now (.move key (Engine.reported c) :: notes) =
        r.update now key (Engine.reported c) := afterAll_notes hnotes
    refine ⟨.calm (.moved hcalm) (brisk_notes hnotes), fun _ => ?_⟩
    rw [hrow]
    exact hidle.update hstate (reported_status c).1 fun hc => by simp [hcalm] at hc
  | @resumed key x hs =>
    -- Only forms wait for a person.
    obtain ⟨n, hn, hk⟩ := hforms _ hs
    have hcalm : p.isCollector (r.template key) = false := by simp [Plan.isCollector, hn, hk]
    obtain ⟨s, hstate, _⟩ := id hs
    have hclaimed := has_claimed now hs
    obtain ⟨s', hstate', _⟩ := id hclaimed
    refine ⟨.calm .begun (.calm (.moved ?_) .nil), fun _ => ?_⟩
    · rwa [Run.after, Run.Sound.template_update]
    · refine (hidle.update hstate rfl fun hc => ?_).update hstate' rfl fun _ => by simp
      simp [hcalm] at hc
  | retried hs hst hn hin hw =>
    exact ⟨hw.brisk (.inr rfl) hn, fun _ => hw.uncollecting hwf hso hn hidle⟩

lemma Faulted.clears (hidle : Uncollecting p r) (h : Faulted p now r m ws) :
    Clears p now r ws := by
  cases h with
  | unwritten => exact ⟨.nil, fun _ => hidle⟩
  | instances hn hi hm hf =>
    exact hf.clears hwf hso hn (fun k hk => hso.known_instanceText hk) hidle
  | whole hn hi hs => exact hs.clears hidle
  | resumed hs hrev =>
    exact ⟨.calm .begun .nil, fun h => absurd (hrev.symm.trans h) (by simp)⟩
  | retried hn hs => exact hs.clears hidle

theorem Advanced.clears (h : Advanced p now r queue ws) (hforms : Forms p r)
    (hidle : holdsRevision r.revision = true → Uncollecting p r) : Clears p now r ws := by
  induction h with
  | stopped => exact ⟨.nil, hidle⟩
  | faulted hrev hm _ => exact hm.clears hwf hso (hidle hrev)
  | next hrev hm hl _ ih =>
    obtain ⟨hbrisk, hleft⟩ := hm.clears hwf hso hforms (hidle hrev)
    exact .append hbrisk (ih (hso.afterAll hwf.child_mem hl) (forms_afterAll hwf hso hforms hl) hleft)

end Messages

/-! What the log tells of collectors -/

lemma changeEvents_split {before rest : List Event}
    (h : r.changeEvents now key u = before ++ e :: rest) : before = [] ∧
      ∃ s t, r.state? key = some s ∧ u.status = some t ∧
        e = Store.statusChanged now r key s.status t (u.apply now s).error := by
  obtain ⟨s, t, hs, hu, he⟩ := Run.mem_changeEvents (h ▸ List.mem_append_right _ List.mem_cons_self)
  rw [Run.changeEvents_eq hs hu] at h
  refine ⟨?_, s, t, hs, hu, he⟩
  cases before with
  | nil => rfl
  | cons => simp at h

lemma eventsOf_spawn_split {targets : List String} {items : List Json} {before rest : List Event}
    (h : r.eventsOf now (.spawn key targets items) = before ++ e :: rest)
    (he : e.kind = .nodeStatusChanged) :
    before = (targets.map fun t =>
      Store.instancesCreated now r t (Store.firstInstances t items.length)) ∧
      ∃ a b error, e = Store.statusChanged now (r.fanned targets items) key a b error := by
  rcases List.append_eq_append_iff.mp h with ⟨mid, rfl, hmid⟩ | ⟨mid, hmid, hlast⟩
  · obtain ⟨rfl, _, _, _, _, rfl⟩ := changeEvents_split hmid
    exact ⟨List.append_nil _, _, _, _, rfl⟩
  · cases mid with
    | nil =>
      have hlast' : _ = [] ++ e :: rest := hlast.symm
      obtain ⟨_, _, _, _, _, rfl⟩ := changeEvents_split hlast'
      exact ⟨by simpa using hmid.symm, _, _, _, rfl⟩
    | cons a mid =>
      obtain ⟨rfl, _⟩ := List.cons.inj hlast
      have hmem := hmid ▸ List.mem_append_right before List.mem_cons_self
      obtain ⟨_, _, rfl⟩ := List.mem_map.mp hmem
      cases he

section Told

variable (hwf : p.WellFormed) (hso : r.Sound p) (hm : (r₀.replay log).Mirrors r)
  (h : Prompt p r₀ log)
include hwf hso hm h

lemma Calm.prompt (hcalm : Calm p r x) (hx : r.Allowed p x) :
    Prompt p r₀ (log ++ r.eventsOf now x) := by
  refine h.append fun {before e rest k} heq he hc => absurd hc ?_
  cases hcalm with
  | begun =>
    obtain ⟨_, s, t, _, hu, rfl⟩ := changeEvents_split heq
    obtain rfl := Option.some.inj hu
    cases (Event.finishes_statusChanged.mp he).2
  | moved hn =>
    obtain ⟨rfl, s, t, _, _, rfl⟩ := changeEvents_split heq
    obtain ⟨rfl, _⟩ := Event.finishes_statusChanged.mp he
    rw [List.append_nil, hm.template, hn]
    simp
  | @spawned key targets items hn =>
    cases hx with
    | spawn _ hs _ _ _ hch hf =>
      obtain ⟨rfl, a, b, error, rfl⟩ := eventsOf_spawn_split heq he.1
      obtain ⟨rfl, _⟩ := Event.finishes_statusChanged.mp he
      rw [Run.replay_append, hm.replay_fanned.template,
        hso.template_fanned (fun t ht => hwf.child_mem (hch t ht)) hf
          (Run.mem_keys_of_state? hs), hn]
      simp
  | noted hkind =>
    have hmem := heq ▸ List.mem_append_right before List.mem_cons_self
    obtain rfl := List.mem_singleton.mp hmem
    cases hkind.symm.trans he.1

lemma prompt_joined (hx : r.Allowed p (.move key (.toStatus .running)))
    (hs : r.Has key .pending ∨ r.Has key .failed) :
    Prompt p r₀ (log ++ r.eventsOf now (.move key (.toStatus .running)) ++
      (r.after now (.move key (.toStatus .running))).eventsOf now (.move key u)) := by
  have hclaim : Prompt p r₀ (log ++ r.eventsOf now (.move key (.toStatus .running))) :=
    Calm.prompt hwf hso hm h .begun hx
  refine hclaim.append fun {before e rest k} heq he hc => ?_
  obtain ⟨rfl, _, t, _, _, rfl⟩ := changeEvents_split heq
  obtain ⟨rfl, _⟩ := Event.finishes_statusChanged.mp he
  obtain ⟨s, hstate⟩ : ∃ s, r.state? key = some s := by
    rcases hs with ⟨s, hs, _⟩ | ⟨s, hs, _⟩
    · exact ⟨s, hs⟩
    · exact ⟨s, hs⟩
  have hone : r.eventsOf now (.move key (.toStatus .running)) =
      [Store.statusChanged now r key s.status .running s.error] := Run.changeEvents_eq hstate rfl
  have hmirrors : (r₀.replay (log ++ r.eventsOf now (.move key (.toStatus .running)))).Mirrors
      (r.after now (.move key (.toStatus .running))) := Run.replay_append ▸ hm.after hx
  rw [List.append_nil]
  refine ⟨log, _, by rw [hone], ?_, ?_, ?_⟩
  · have hfrom : ∀ {a}, r.Has key a →
        (Store.statusChanged now r key s.status .running s.error).tellsFrom a :=
      fun ha => (Run.has_iff hstate).mp ha ▸ tellsFrom_statusChanged
    exact hs.imp (fun hp => ⟨rfl, rfl, hfrom hp, rfl⟩) fun hf => ⟨rfl, rfl, hfrom hf, rfl⟩
  · rw [hmirrors.template, hm.template, Run.after, Run.Sound.template_update]
  · rw [hm.template, hmirrors.closed, hm.closed]
    exact Run.closed_update hwf hso hstate rfl

omit hso hm h in
lemma Brisk.prompt (hb : Brisk p now r ws) (hl : Lawful p now r ws) (hso : r.Sound p)
    (hm : (r₀.replay log).Mirrors r) (h : Prompt p r₀ log) :
    Prompt p r₀ (log ++ r.entriesOf now ws) := by
  induction hb generalizing log with
  | nil => simpa [Run.entriesOf] using h
  | calm hcalm _ ih =>
    cases hl with
    | cons hx hl =>
      rw [Run.entriesOf, ← List.append_assoc]
      exact ih hl (hso.after hwf.child_mem hx) (Run.replay_append ▸ hm.after hx)
        (hcalm.prompt hwf hso hm h hx)
  | joined hs _ ih =>
    cases hl with
    | cons hx hl =>
      cases hl with
      | cons hy hl =>
        rw [Run.entriesOf, Run.entriesOf, ← List.append_assoc (_ : List Event), ← List.append_assoc]
        refine ih hl ((hso.after hwf.child_mem hx).after hwf.child_mem hy) ?_
          (prompt_joined hwf hso hm h hx hs)
        rw [Run.replay_append, Run.replay_append]
        exact (hm.after hx).after hy

end Told

structure Punctual (p : Plan) (r₀ r : Run) (log : List Event) : Prop where
  mirrors : (r₀.replay log).Mirrors r
  prompt : Prompt p r₀ log
  idle : holdsRevision r.revision = true → Uncollecting p r

lemma follows_punctual (hwf : p.WellFormed) : Follows p (Punctual p r₀) :=
  fun hso hforms hadv h =>
    have hclears := hadv.clears hwf hso hforms h.idle
    { mirrors := Run.replay_append ▸ h.mirrors.afterAll hadv.lawful
      prompt := hclears.brisk.prompt hwf hadv.lawful hso h.mirrors h.prompt
      idle := hclears.left }

lemma punctual_newRun {v : FlowVersion} {trigger : Trigger} {entityId : Option String}
    {id : String} (now' : Instant) : Punctual v.plan (newRun id v trigger entityId now)
      (newRun id v trigger entityId now)
      [Store.runStarted now' (newRun id v trigger entityId now)] where
  mirrors := .refl
  prompt before e rest key heq he := by
    have hmem : e ∈ before ++ e :: rest := List.mem_append_right before List.mem_cons_self
    rw [← heq, List.mem_singleton] at hmem
    rw [hmem] at he
    cases he.1
  idle _ _ _ hrun := absurd (has_newRun hrun) (by simp)

variable {id : String} {w : World}

/-- Whether the operations on a run return or fail: whenever a collector comes to an end, all its
branches have come to an end, if and only if this holds whenever a collector that failed is started
again, and comes to an end. -/
theorem collectors_end_closed_iff {c : Canvas} {catalogue : Catalogue}
    (hc : c.compile catalogue = .ok p) (h : Course p id r₀ w) :
    ∃ r, w.store.run? id = some r ∧ (r₀.replay (w.store.entries id)).Mirrors r ∧
      ((∀ before e rest key, w.store.entries id = before ++ e :: rest → e.Finishes key →
          p.isCollector ((r₀.replay before).template key) = true →
          (r₀.replay before).Closed p ((r₀.replay before).template key)) ↔
        ∀ before s e rest key, w.store.entries id = before ++ s :: e :: rest → s.Restarts key →
          e.Finishes key → p.isCollector ((r₀.replay before).template key) = true →
          (r₀.replay before).Closed p ((r₀.replay before).template key)) := by
  have hwf := Canvas.compile_wellFormed hc
  have hborn : ∀ now, Punctual p r₀ r₀ [Store.runStarted now r₀] := by
    obtain ⟨_, _, _, _, rfl, rfl⟩ := h.first
    exact punctual_newRun
  obtain ⟨r, ht, hf⟩ := h.followed hwf (follows_punctual hwf) hborn
  have htimely : Timely p r₀ (w.store.entries id) :=
    ht.chronicle.timely.congr (by simp [Store.entries])
  refine ⟨r, ht.hosts.row, hf.holds.mirrors, fun hclosed => ?_, fun hrestart => ?_⟩
  · intro before s e rest key heq hs he hcol
    have hsplit : w.store.entries id = (before ++ [s]) ++ e :: rest := by simp [heq]
    have htemplate : (r₀.replay (before ++ [s])).template key = (r₀.replay before).template key := by
      rw [Run.replay_append]
      exact Run.template_heed hs.1
    have hcol' := htemplate.symm ▸ hcol
    obtain ⟨first, s', hfirst, _, _, hiff⟩ := hf.holds.prompt _ e rest key hsplit he hcol'
    obtain ⟨rfl, _⟩ := List.append_inj' hfirst rfl
    exact hiff.mp (htemplate ▸ hclosed _ e rest key hsplit he hcol')
  · intro before e rest key heq he hcol
    obtain ⟨first, s, rfl, hs, htemplate, hiff⟩ := hf.holds.prompt before e rest key heq he hcol
    rw [htemplate] at hcol ⊢
    rw [hiff]
    have hsplit : w.store.entries id = first ++ s :: e :: rest := by simpa using heq
    rcases hs with hs | hs
    · exact (htimely first s (e :: rest) key hsplit hs).closed
    · exact hrestart first s e rest key hsplit hs he hcol

lemma forall_adjacent {P : List Event → Event → Event → Prop}
    (h : ∀ i < log.length, ∀ s ∈ log[i]?, ∀ e ∈ log[i + 1]?, P (log.take i) s e) :
    ∀ before s e rest, log = before ++ s :: e :: rest → P before s e := by
  rintro before s e rest rfl
  simpa using h before.length (by simp) s (by simp) e (by simp)

lemma Course.of_playFor {calls : List Call} {fuel : Nat} {e : Engine} {w' : World}
    (h : Course p id r₀ w) (hcalls : ∀ c ∈ calls, ∀ node, c ≠ .fire node)
    (hplay : e.playFor fuel id calls w = some w') : Course p id r₀ w' := by
  induction calls generalizing w with
  | nil => exact Option.some.inj hplay ▸ h
  | cons c rest ih =>
    obtain ⟨hc, hrest⟩ := List.forall_mem_cons.mp hcalls
    obtain ⟨w₁, hcall, hplay⟩ := Option.bind_eq_some_iff.mp hplay
    exact ih ((Operation.call_of_returnFor hcall).1 ▸ .called h hc) hrest hplay

def twoBranches : Canvas where
  nodes? := some [.bare "a" .worker [("webhook_url", .str "http://worker")],
    .bare "b" .worker [("webhook_url", .str "http://worker")], .bare "join" .collector []]
  edges? := some [.bare "a" "join" [], .bare "b" "join" []]

def rowOfBranches : Run :=
  created (.ofCanvas twoBranches) ⟨"version", "flow", twoBranches, .ofCanvas twoBranches [], none,
    .epoch2024⟩ .byHand none none

lemma course_twoBranches {calls : List Call} {fuel : Nat} {w₁ : World}
    (hcalls : ∀ c ∈ calls, ∀ node, c ≠ .fire node)
    (hstart : accepting.startFor fuel "version" .byHand none none (.ofCanvas twoBranches) =
      some (id, w₁))
    (hplay : accepting.playFor fuel id calls w₁ = some w) :
    Course (.ofCanvas twoBranches []) id rowOfBranches w := by
  obtain ⟨_, v, s, hv, hc, _, hid⟩ := startFor_sound hstart
  obtain rfl : _ = v := Option.some.inj hv
  have hstarted : Course (.ofCanvas twoBranches []) id rowOfBranches
      ((Operation.start "version" .byHand none none).after accepting (.ofCanvas twoBranches)) :=
    .started hv rfl rfl rfl hid hc rfl
  exact ((Operation.start_of_startFor hstart).1 ▸ hstarted).of_playFor hcalls hplay

def branchAnswered : List Call :=
  [.callback "a" (.failure "no"), .callback "b" (.failure "no"), .retry "a",
    .callback "a" ⟨.completed, .str "x", none⟩, .retry "join"]

theorem restarted_after_branches : ∃ (id : String) (r : Run) (w : World) (before : List Event)
    (e : Event),
    twoBranches.compile [] = .ok (.ofCanvas twoBranches []) ∧
    Course (.ofCanvas twoBranches []) id rowOfBranches w ∧ w.store.run? id = some r ∧
    w.store.entries id = before ++ [e] ∧ e.Finishes "join" ∧ r.Has "join" .completed ∧
    (rowOfBranches.replay before).Closed (.ofCanvas twoBranches [])
      ((rowOfBranches.replay before).template "join") := by
  have hc := Canvas.compile_of_checks (c := twoBranches) (by decide +kernel) (by decide +kernel)
    (by decide +kernel)
  obtain ⟨⟨id, w₁⟩, hstart, w, hplay, r, hr, hcompleted, hrestarts, e, hlast, he, hcol⟩ :=
    exists_of_any
      (x := accepting.startFor 20 "version" .byHand none none (.ofCanvas twoBranches))
      (P := fun x => ∃ w ∈ accepting.playFor 20 x.1 branchAnswered x.2, ∃ r ∈ w.store.run? x.1,
        r.Has "join" .completed ∧
        (∀ i < (w.store.entries x.1).length, ∀ s ∈ (w.store.entries x.1)[i]?,
          ∀ e ∈ (w.store.entries x.1)[i + 1]?, ∀ key ∈ s.nodeKey, s.Restarts key →
          e.Finishes key → (rowOfBranches.replay ((w.store.entries x.1).take i)).Closed
            (.ofCanvas twoBranches [])
            ((rowOfBranches.replay ((w.store.entries x.1).take i)).template key)) ∧
        ∃ e ∈ (w.store.entries x.1).getLast?, e.Finishes "join" ∧
          Plan.isCollector (.ofCanvas twoBranches [])
            ((rowOfBranches.replay (w.store.entries x.1).dropLast).template "join") = true)
      (by decide +kernel)
  have hcourse := course_twoBranches (by simp [branchAnswered]) hstart hplay
  obtain ⟨r', hr', _, hiff⟩ := collectors_end_closed_iff hc hcourse
  have hsplit := (List.dropLast_append_getLast? e hlast).symm
  refine ⟨id, r, w, _, e, hc, hcourse, hr, hsplit, he, hcompleted, ?_⟩
  refine hiff.mpr (fun before s e rest key heq hs he _ => ?_) _ e [] "join" hsplit he hcol
  exact forall_adjacent (P := fun before s e => ∀ key ∈ s.nodeKey, s.Restarts key →
    e.Finishes key → (rowOfBranches.replay before).Closed (.ofCanvas twoBranches [])
      ((rowOfBranches.replay before).template key)) hrestarts before s e rest heq key hs.2.1 hs he

def branchStarted : List Call :=
  [.callback "a" (.failure "no"), .callback "b" (.failure "no"), .retry "a", .retry "b",
    .callback "b" ⟨.completed, .str "y", none⟩, .retry "join"]

theorem completed_beside_worker : ∃ (id : String) (r : Run) (w : World) (before : List Event)
    (e : Event),
    twoBranches.compile [] = .ok (.ofCanvas twoBranches []) ∧
    Course (.ofCanvas twoBranches []) id rowOfBranches w ∧ w.store.run? id = some r ∧
    r.Has "a" .running ∧ r.Has "join" .completed ∧
    w.store.entries id = before ++ [e] ∧ e.Finishes "join" ∧
    Plan.isCollector (.ofCanvas twoBranches [])
      ((rowOfBranches.replay before).template "join") = true ∧
    ¬ (rowOfBranches.replay before).Closed (.ofCanvas twoBranches [])
      ((rowOfBranches.replay before).template "join") := by
  have hc := Canvas.compile_of_checks (c := twoBranches) (by decide +kernel) (by decide +kernel)
    (by decide +kernel)
  obtain ⟨⟨id, w₁⟩, hstart, w, hplay, r, hr, hrun, hcompleted, e, hlast, he, hcol, hopen⟩ :=
    exists_of_any
      (x := accepting.startFor 20 "version" .byHand none none (.ofCanvas twoBranches))
      (P := fun x => ∃ w ∈ accepting.playFor 20 x.1 branchStarted x.2, ∃ r ∈ w.store.run? x.1,
        r.Has "a" .running ∧ r.Has "join" .completed ∧
        ∃ e ∈ (w.store.entries x.1).getLast?, e.Finishes "join" ∧
          Plan.isCollector (.ofCanvas twoBranches [])
            ((rowOfBranches.replay (w.store.entries x.1).dropLast).template "join") = true ∧
          ¬ (rowOfBranches.replay (w.store.entries x.1).dropLast).Closed
            (.ofCanvas twoBranches [])
            ((rowOfBranches.replay (w.store.entries x.1).dropLast).template "join"))
      (by decide +kernel)
  exact ⟨id, r, w, _, e, hc, course_twoBranches (by simp [branchStarted]) hstart hplay, hr, hrun,
    hcompleted, (List.dropLast_append_getLast? e hlast).symm, he, hcol, hopen⟩

end Engine

end Workflow
