import Workflow.Engine.Handler
import Workflow.Proofs.Engine.Ends
import Workflow.Proofs.Engine.Ready

/-! Starting a key: the claim, and what the kind of its node makes of it. -/

namespace Workflow

namespace Engine

open Store (Refuses unreadable holdsRevision)

def splitItems (n : PlanNode) (key : String) (input : Json) : Except String (List Json) :=
  match arrayPath n with
  | .str "" => .error s!"Splitter '{key}' has no config.array_path"
  | .str path =>
    match Failure.ofPath (input.resolveOutput path) with
    | .error f => .error f.text
    | .ok .null => .error s!"Array path '{path}' not found in splitter input"
    | .ok (.arr items) => .ok items
    | .ok other => .error s!"Value at '{path}' is {other.kindName}, expected an array"
  | other =>
    if other.isFalsy then .error s!"Splitter '{key}' has no config.array_path"
    else .error (Failure.pathNotText other.kindName).text

def branchesOf (r : Run) (sources : List String) : List (String × Option NodeState) :=
  sources.flatMap fun s => (r.keysOf s).map fun k => (k, r.state? k)

def collectValue (p : Plan) (r : Run) (n : PlanNode) : Except String Json :=
  match collectMode n with
  | .error mode => .error
      s!"Unknown collector mode '{mode.display}' (expected one of ('array', 'keyed', 'first'))"
  | .ok mode =>
    let bs := branchesOf r (p.parents n.id)
    if (branchOutputs bs).isEmpty && !bs.isEmpty then
      .error s!"All {bs.length} upstream branch(es) failed"
    else .ok (collect mode (branchOutputs bs))

inductive Worked (p : Plan) (r : Run) (n : PlanNode) (key : String) (input : Json) :
    List Write → Outcome → Prop where
  | sent {q : Request} (hk : n.kind = .worker) (hr : q.runId = r.id) (hq : q.nodeKey = key)
      (hi : q.input = input) : Worked p r n key input [] (.send q)
  | parked (hk : n.kind = .ux) :
      Worked p r n key input [.move key (.finish .waitingForUser input)] .nothing
  | unsplit {e} (hk : n.kind = .splitter) (hi : splitItems n key input = .error e) :
      Worked p r n key input [.move key (.fail e)] (.walk key)
  | whole {items} (hk : n.kind = .splitter) (hi : splitItems n key input = .ok items)
      (ht : p.fannedOut n.id = []) :
      Worked p r n key input [.move key (.finish .completed (.arr items))] (.walk key)
  | rejected {items f} (hk : n.kind = .splitter) (hi : splitItems n key input = .ok items)
      (ht : p.fannedOut n.id ≠ []) (hf : Refuses r (p.fannedOut n.id) items f) :
      Worked p r n key input [.move key (.fail f.text)] (.walk key)
  | split {items} (hk : n.kind = .splitter) (hi : splitItems n key input = .ok items)
      (ht : p.fannedOut n.id ≠ []) (hs : r.Spawnable (p.fannedOut n.id) items) :
      Worked p r n key input [.spawn key (p.fannedOut n.id) items] (.walk key)
  | uncollected {e} (hk : n.kind = .collector) (hc : collectValue p r n = .error e) :
      Worked p r n key input [.move key (.fail e)] (.walk key)
  | collected {x} (hk : n.kind = .collector) (hc : collectValue p r n = .ok x) :
      Worked p r n key input [.move key (.finish .completed x)] (.walk key)

variable {p : Plan} {r : Run} {n : PlanNode} {key id : String} {input : Json} {w : World}
  {s : NodeState}

def Thrown (p : Plan) (r : Run) (n : PlanNode) (key : String) (input : Json) (f : Failure)
    (ws : List Write) : Prop :=
  ws = [] ∧ (∀ s t, f ≠ .illegalMove s t) ∧ n.kind ≠ .worker ∧
    (holdsRevision r.revision = true →
      Worked p r n key input [.move key (.fail f.text)] (.walk key))

lemma fanOutTargets_eq {l : List String} (h : ∀ t ∈ l, t ∈ p.nodeIds) :
    fanOutTargets p l = .ok (l.filter fun t => !p.isCollector t) := by
  induction l with
  | nil => rfl
  | cons t rest ih =>
    obtain ⟨n, hn⟩ := Plan.mem_nodeIds_iff.mp (h t (by simp))
    have hrest := ih fun u hu => h u (by simp [hu])
    by_cases hk : n.kind = .collector
    · simp [fanOutTargets, hn, hrest, hk, Plan.isCollector, bind, Except.bind, pure, Except.pure]
    · simp [fanOutTargets, hn, hrest, hk, Plan.isCollector, bind, Except.bind, pure, Except.pure]

lemma ne_illegalMove_of_ofPath {α : Type} {x : Except Json.BadIndex α} {f : Failure}
    (h : Failure.ofPath x = .error f) (s t : Status) : f ≠ .illegalMove s t := by
  cases x with
  | error b =>
    obtain rfl := Except.error.inj h
    simp
  | ok a => cases h

lemma branches_eq (hso : r.Sound p) (l : List String) : branches r l = .ok (branchesOf r l) := by
  induction l with
  | nil => rfl
  | cons s rest ih =>
    simp only [branches, ih, branchesOf, List.flatMap_cons, Run.keysOf]
    by_cases hi : r.hasInstances s = true
    · have hmap := mapM_of_ok (l := instanceTexts r s) (g := fun k => (k, r.state? k))
        (f := fun k => do return (k, some (← Failure.ofMissing (r.stateAt k)))) fun k hk => by
          obtain ⟨st, hst⟩ := hso.text_state hk
          simp [Run.stateAt_of_state? hst, hst, Failure.ofMissing, Except.mapError, bind,
            Except.bind, pure, Except.pure]
      rw [if_pos hi, hmap, if_pos hi]
      rfl
    · rw [if_neg hi, if_neg hi]
      rfl

section Hosted

variable (h : w.Hosts id p r) (hs : r.state? key = some s) (hr : s.status = .running)
include h hs hr

lemma move_ends {u : NodeUpdate} {t : Status} {o : Outcome} (hu : u.status = some t)
    (hc : Status.running.canBecome t = true) :
    Ends id (do let _ ← World.update r.id [(key, u)]; return o) w
      (fun ws o' => ws = [.move key u] ∧ o' = o ∧ holdsRevision r.revision = true)
      (fun f ws => ws = [] ∧ f = unreadable ∧ holdsRevision r.revision = false) := by
  have heq := World.update_eq h hs hu (hr ▸ hc)
  rw [h.id_eq]
  by_cases hrev : holdsRevision r.revision = true
  · rw [if_pos hrev] at heq
    exact Ends.of_ok [.move key u] (by rw [Action.bind_of_ok heq]; rfl) ⟨rfl, rfl, hrev⟩
  · rw [if_neg hrev] at heq
    exact .bind_error heq ⟨rfl, rfl, by simpa using hrev⟩

lemma move_thrown {u : NodeUpdate} {t : Status} {o : Outcome} (hu : u.status = some t)
    (hc : Status.running.canBecome t = true) (hk : n.kind ≠ .worker)
    (hw : Worked p r n key input [.move key u] o) :
    Ends id (do let _ ← World.update r.id [(key, u)]; return o) w
      (Worked p r n key input) (Thrown p r n key input) := by
  refine (move_ends h hs hr hu hc).mono ?_ ?_
  · rintro ws o' ⟨rfl, rfl, _⟩
    exact hw
  · rintro f ws ⟨rfl, rfl, hrev⟩
    exact ⟨rfl, by simp [unreadable], hk, by simp [hrev]⟩

lemma fanOut_ends (hwf : p.WellFormed) (hso : r.Sound p) (hk : n.kind = .splitter)
    {items : List Json} (hi : splitItems n key input = .ok items) :
    Ends id (fanOut p r n key items) w (Worked p r n key input) (Thrown p r n key input) := by
  have hnw : n.kind ≠ .worker := by simp [hk]
  have hlift := Action.lift_ok (w := w) (fanOutTargets_eq (p := p) (l := p.children n.id)
    fun t ht => hwf.child_mem ht)
  have hmem : ∀ t ∈ p.fannedOut n.id, t ∈ Keyed.keys r.states := by
    intro t ht
    simp only [Plan.fannedOut, List.mem_eraseDups, List.mem_filter] at ht
    exact hso.node_mem (hwf.child_mem ht.1)
  unfold fanOut Ends
  rw [Action.bind_of_ok hlift]
  change Ends id _ w _ _
  by_cases ht : ((p.children n.id).filter fun t => !p.isCollector t) = []
  · simp only [ht, List.isEmpty_nil, ↓reduceIte]
    exact move_thrown h hs hr rfl rfl hnw
      (.whole hk hi (by rw [Plan.fannedOut, ht]; rfl))
  · have hne : p.fannedOut n.id ≠ [] := by
      obtain ⟨t, htm⟩ := List.exists_mem_of_ne_nil _ ht
      exact List.ne_nil_of_mem (List.mem_eraseDups.mpr htm)
    simp only [List.isEmpty_eq_false_iff.mpr ht, Bool.false_eq_true, ↓reduceIte, h.id_eq]
    rcases World.register_eq h items (nodup_eraseDups _) hmem hs hr with
      ⟨f, hreg, hf⟩ | ⟨hsp, hreg⟩
    · refine .bind_error hreg ⟨rfl, ?_, hnw, ?_⟩
      · rcases hf with hf | ⟨rfl, _⟩
        · cases hf <;> simp
        · simp [unreadable]
      · intro hrev
        rcases hf with hf | ⟨_, hf⟩
        · exact .rejected hk hi hne hf
        · simp [hf] at hrev
    · exact Ends.of_ok [.spawn key (p.fannedOut n.id) items]
        ((Action.bind_of_ok hreg).trans rfl) (.split hk hi hne hsp)

lemma startSplitter_ends (hwf : p.WellFormed) (hso : r.Sound p) (hk : n.kind = .splitter) :
    Ends id (startSplitter p r n key input) w (Worked p r n key input)
      (Thrown p r n key input) := by
  have hnw : n.kind ≠ .worker := by simp [hk]
  have hfail : ∀ e, splitItems n key input = .error e →
      Ends id (fail r.id key e) w (Worked p r n key input) (Thrown p r n key input) :=
    fun e he => move_thrown h hs hr rfl rfl hnw (.unsplit hk he)
  unfold startSplitter
  -- The path is empty, or it is some other text, or no text at all.
  split
  · rename_i hp
    exact hfail _ (by simp [splitItems, hp])
  · rename_i path hempty hp
    have hitems : splitItems n key input =
        match Failure.ofPath (input.resolveOutput path) with
        | .error f => .error f.text
        | .ok .null => .error s!"Array path '{path}' not found in splitter input"
        | .ok (.arr items) => .ok items
        | .ok other => .error s!"Value at '{path}' is {other.kindName}, expected an array" := by
      rw [splitItems, hp]
      split <;> simp_all
    cases hres : Failure.ofPath (input.resolveOutput path) with
    | error f =>
      rw [hres] at hitems
      exact .bind_lift_error rfl
        ⟨rfl, ne_illegalMove_of_ofPath hres, hnw, fun _ => .unsplit hk hitems⟩
    | ok x =>
      rw [hres] at hitems
      refine .bind_lift rfl ?_
      split
      · exact hfail _ hitems
      · exact fanOut_ends h hs hr hwf hso hk hitems
      · exact hfail _ (by rw [hitems]; split <;> simp_all)
  · rename_i hstr hempty
    have hitems : splitItems n key input =
        if (arrayPath n).isFalsy then .error s!"Splitter '{key}' has no config.array_path"
        else .error (Failure.pathNotText (arrayPath n).kindName).text := by
      unfold splitItems
      split <;> simp_all
    split
    · rename_i hfalsy
      exact hfail _ (by rw [hitems, if_pos hfalsy])
    · rename_i hfalsy
      exact Ends.throw ⟨rfl, by simp, hnw, fun _ => .unsplit hk (by rw [hitems, if_neg hfalsy])⟩

lemma startCollector_ends (hso : r.Sound p) (hk : n.kind = .collector) :
    Ends id (startCollector p r n key) w (Worked p r n key input) (Thrown p r n key input) := by
  have hnw : n.kind ≠ .worker := by simp [hk]
  have hfail : ∀ e, collectValue p r n = .error e →
      Ends id (fail r.id key e) w (Worked p r n key input) (Thrown p r n key input) :=
    fun e he => move_thrown h hs hr rfl rfl hnw (.uncollected hk he)
  unfold startCollector
  split
  · rename_i mode hm
    exact hfail _ (by simp [collectValue, hm])
  · rename_i mode hm
    refine .bind_lift (branches_eq hso _) ?_
    dsimp only
    split
    · rename_i he
      exact hfail _ (by simp only [collectValue, hm, if_pos he])
    · rename_i he
      exact move_thrown h hs hr rfl rfl hnw
        (.collected hk (by simp only [collectValue, hm, if_neg he]))

end Hosted

inductive Started (p : Plan) (now : Instant) (r : Run) (n : PlanNode) (key : String) (input : Json)
    (source : Status) : List Write → Outcome → Prop where
  | skipped (hs : ¬ r.Has key source) : Started p now r n key input source [] .nothing
  | worked {ws o} (hs : r.Has key source)
      (hw : Worked p (r.update now key (.toStatus .running)) n key input ws o) :
      Started p now r n key input source (.move key (.toStatus .running) :: ws) o

inductive Interrupted (now : Instant) (r : Run) (n : PlanNode) (key : String) (source : Status) :
    List Write → Prop where
  | unclaimed (hrev : holdsRevision r.revision = false) : Interrupted now r n key source []
  | claimed (hs : r.Has key source) (hk : n.kind ≠ .worker)
      (hrev : holdsRevision (r.update now key (.toStatus .running)).revision = false) :
      Interrupted now r n key source [.move key (.toStatus .running)]

section Handler

variable {settings : Settings} {source : Status}

lemma unlessIllegal_ends {α : Type} {x : Action α} {a : α} {P : List Write → α → Prop}
    {B : Failure → List Write → Prop} (h : Ends id x w P B)
    (hb : ∀ f ws, B f ws → ∀ s t, f ≠ .illegalMove s t) :
    Ends id (unlessIllegal x a) w P B := by
  refine h.tryCatch fun f ws hf => ?_
  split
  · exact absurd rfl (hb _ ws hf _ _)
  · exact Ends.throw (by simpa using hf)

variable (hwf : p.WellFormed) (h : w.Hosts id p r) (hso : r.Sound p)
  (hkind : n.kind.isPresentation = false) (hs : r.state? key = some s)
  (hc : source.canBecome .running = true) {snap : Run} (hid : snap.id = id)
include hwf h hso hkind hs hc hid

lemma start_ends :
    Ends id (start settings p snap n key input source) w (Started p w.now r n key input source)
      fun f ws => (∀ s t, f ≠ .illegalMove s t) ∧
        (ws = [] ∧ holdsRevision r.revision = false ∨
          s.status = source ∧ ∃ xs, ws = .move key (.toStatus .running) :: xs ∧
            Thrown p (r.update w.now key (.toStatus .running)) n key input f xs) := by
  have hclaim := World.claim_eq h source hs hc
  unfold start
  rw [if_neg (by simp [hkind]), hid]
  -- If the row cannot be read, the claim fails before it writes.
  by_cases hrev : holdsRevision r.revision = true
  · rw [if_pos hrev] at hclaim
    by_cases hst : s.status = source
    · rw [if_pos hst] at hclaim
      refine .bind_write [.move key (.toStatus .running)] hclaim ?_
      have hhas : r.Has key source := ⟨s, hs, hst⟩
      have hq := h.record (.move key (.toStatus .running))
      have hqs : (r.update w.now key (.toStatus .running)).Sound p := hso.update
      have hstate : (r.update w.now key (.toStatus .running)).state? key =
          some ((NodeUpdate.toStatus .running).apply w.now s) := by
        rw [Run.update_eq hs, Run.state?_moved, if_pos rfl]
      have hrun : ((NodeUpdate.toStatus .running).apply w.now s).status = .running := rfl
      suffices hw : Ends id _ _ (Worked p (r.update w.now key (.toStatus .running)) n key input)
          (Thrown p (r.update w.now key (.toStatus .running)) n key input) by
        refine hw.mono (fun xs o hx => .worked hhas hx) fun f xs hx => ?_
        exact ⟨hx.2.1, .inr ⟨hst, xs, rfl, hx⟩⟩
      dsimp only
      split
      · rename_i hk
        exact Ends.pure (.sent hk rfl rfl rfl)
      · rename_i hk
        exact move_thrown hq hstate hrun rfl rfl (by simp [hk]) (.parked hk)
      · rename_i hk
        exact startSplitter_ends hq hstate hrun hwf hqs hk
      · have hk : n.kind = .collector := by
          cases hk : n.kind <;> simp_all [NodeKind.isPresentation]
        exact startCollector_ends hq hstate hrun hqs hk
    · rw [if_neg hst] at hclaim
      refine Ends.of_ok [] ((Action.bind_of_ok hclaim).trans rfl) (.skipped ?_)
      rwa [Run.has_iff hs]
  · rw [if_neg hrev] at hclaim
    exact .bind_error hclaim ⟨by simp [unreadable], .inl ⟨rfl, by simpa using hrev⟩⟩

lemma runHandler_ends :
    Ends id (runHandler settings p snap n key input source) w (Started p w.now r n key input source)
      fun _ ws => Interrupted w.now r n key source ws := by
  refine (unlessIllegal_ends (start_ends hwf h hso hkind hs hc hid) fun f ws hf => hf.1).tryCatch ?_
  rintro f ws ⟨hill, ⟨rfl, hrev⟩ | ⟨hst, xs, rfl, rfl, hill, hk, hw⟩⟩
  -- A claimed key is failed with the text; a row that cannot be read is left alone.
  · have hu := World.update_unreadable h [(key, .fail f.text)] hrev
    refine unlessIllegal_ends (B := fun f ws => f = unreadable ∧ ws = []) ?_
      (by simp [unreadable]) |>.mono (P := fun _ _ => False) (by simp) ?_
    · unfold fail
      rw [hid]
      exact .bind_error hu ⟨rfl, rfl⟩
    · rintro f ws ⟨_, rfl⟩
      exact .unclaimed hrev
  · have hhas : r.Has key source := ⟨s, hs, hst⟩
    have hq := h.record (.move key (.toStatus .running))
    have hstate : (r.update w.now key (.toStatus .running)).state? key =
        some ((NodeUpdate.toStatus .running).apply w.now s) := by
      rw [Run.update_eq hs, Run.state?_moved, if_pos rfl]
    have hrun : ((NodeUpdate.toStatus .running).apply w.now s).status = .running := rfl
    have hfail := move_ends (u := .fail f.text) (o := .walk key) hq hstate hrun rfl rfl
    rw [(Run.sameHeader_after _).id, h.id_eq] at hfail
    rw [hid]
    refine (unlessIllegal_ends hfail ?_).mono ?_ ?_
    · rintro f ws ⟨_, rfl, _⟩
      simp [unreadable]
    · rintro xs o ⟨rfl, rfl, hrev⟩
      exact .worked hhas (hw hrev)
    · rintro f xs ⟨rfl, _, hrev⟩
      exact .claimed hhas hk hrev

end Handler

end Engine

end Workflow
