import Workflow.Proofs.Action
import Workflow.Proofs.Engine.Evaluate
import Workflow.Proofs.Keyed
import Workflow.Proofs.Store.Record
import Workflow.Versions

/-!
Stores that flows and versions were saved in. A version for a canvas is a new one, compiled from the
canvas, or the current one, whose canvas was taken for the same.
-/

namespace Workflow

@[simp] lemma FlowVersion.id_written (v : FlowVersion) : v.written.id = v.id := rfl

@[simp] lemma FlowVersion.flowId_written (v : FlowVersion) : v.written.flowId = v.flowId := rfl

namespace Versions

inductive Saving where
  | createFlow (name canvasType : String) (parentId : Option String)
  | createVersion (flowId : String) (canvas : Canvas) (message : Option String)
  | versionFor (flowId : String) (canvas : Canvas)

namespace Saving

def perform (catalogue : Catalogue) : Saving → Action Unit
  | .createFlow name canvasType parentId => discard (Versions.createFlow name canvasType parentId)
  | .createVersion flowId canvas message =>
    discard (Versions.createVersion catalogue flowId canvas message)
  | .versionFor flowId canvas => discard (Versions.versionFor catalogue flowId canvas)

end Saving

structure Filed (catalogue : Catalogue) (w : World) : Prop where
  compiled : ∀ v ∈ w.store.versions, ∃ c : Canvas, c.compile catalogue = .ok (.ofCanvas c catalogue) ∧
    v.canvas = c.written ∧ v.plan = (Plan.ofCanvas c catalogue).written
  current : ∀ f ∈ w.store.flows, ∀ id, f.currentVersionId = some id →
    ∃ v, w.store.version? id = some v
  drawn : ∀ v ∈ w.store.versions, ∃ n, n ≤ w.issued ∧ v.id = s!"id-{n}"

variable {catalogue : Catalogue} {w w' : World} {flowId : String} {canvas : Canvas} {f : Flow}
  {v : FlowVersion} {message : Option String}

lemma drawnId_injective {m n : Nat} (h : s!"id-{m}" = s!"id-{n}") : m = n := by
  have hl : "id-".toList ++ m.repr.toList = "id-".toList ++ n.repr.toList := by
    simpa using congrArg String.toList h
  exact Nat.repr_inj.mp (String.toList_inj.mp (List.append_cancel_left hl))

def nextVersion (w : World) (flowId : String) (canvas : Canvas) (plan : Plan)
    (message : Option String) : FlowVersion :=
  ⟨s!"id-{w.issued + 1}", flowId, canvas, plan, message, w.now⟩

def withVersion (w : World) (v : FlowVersion) : World :=
  { w with
    issued := w.issued + 1
    store :=
      { w.store with
        flows := w.store.flows.map (Store.pointAt w.now v)
        versions := w.store.versions ++ [v.written] }.log (Store.versionCreated w.now v) }

lemma createVersion_invalid {findings : List Finding}
    (hc : canvas.compile catalogue = .error findings) :
    createVersion catalogue flowId canvas message w = .error (.invalidCanvas findings) w := by
  rw [createVersion, hc]
  rfl

lemma createVersion_valid {p : Plan} (hc : canvas.compile catalogue = .ok p) :
    createVersion catalogue flowId canvas message w =
      match Store.insertVersion w.now (nextVersion w flowId canvas p message) w.store with
      | .ok store =>
        .ok (nextVersion w flowId canvas p message) { w with issued := w.issued + 1, store }
      | .error f => .error f { w with issued := w.issued + 1 } := by
  have hdraw : World.drawId w = .ok s!"id-{w.issued + 1}" { w with issued := w.issued + 1 } := rfl
  have hwrite : World.writeStore
      (fun now => Store.insertVersion now (nextVersion w flowId canvas p message))
      { w with issued := w.issued + 1 } =
        match Store.insertVersion w.now (nextVersion w flowId canvas p message) w.store with
        | .ok store => .ok () { w with issued := w.issued + 1, store }
        | .error f => .error f { w with issued := w.issued + 1 } := by
    cases hi : Store.insertVersion w.now (nextVersion w flowId canvas p message) w.store <;>
      simp [World.writeStore, World.write_apply, hi, Except.map]
  rw [createVersion, hc]
  dsimp only
  rw [Action.bind_of_ok hdraw, Action.bind_of_ok Action.get_apply]
  change (World.writeStore (fun now =>
    Store.insertVersion now (nextVersion w flowId canvas p message)) >>= fun _ => _) _ = _
  cases hi : Store.insertVersion w.now (nextVersion w flowId canvas p message) w.store with
  | ok store =>
    rw [hi] at hwrite
    exact Action.bind_of_ok hwrite
  | error f =>
    rw [hi] at hwrite
    exact Action.bind_of_error hwrite

namespace Filed

variable (h : Filed catalogue w)

include h

lemma version?_drawn {n : Nat} (hn : w.issued < n) : w.store.version? s!"id-{n}" = none := by
  rw [Store.version?, List.find?_eq_none]
  intro v hv he
  obtain ⟨m, hm, hid⟩ := h.drawn v hv
  have : m = n := drawnId_injective (hid.symm.trans (of_decide_eq_true he))
  omega

lemma createVersion_eq {p : Plan} (hc : canvas.compile catalogue = .ok p)
    (hf : w.store.flow? flowId = some f) :
    createVersion catalogue flowId canvas message w =
      .ok (nextVersion w flowId canvas p message)
        (withVersion w (nextVersion w flowId canvas p message)) := by
  have hfresh := h.version?_drawn (Nat.lt_succ_self w.issued)
  rw [createVersion_valid hc]
  simp only [Store.insertVersion, nextVersion, hf, hfresh]
  rfl

lemma version?_withVersion {p : Plan} :
    (withVersion w (nextVersion w flowId canvas p message)).store.version?
        (nextVersion w flowId canvas p message).id =
      some (nextVersion w flowId canvas p message).written := by
  have hfresh := h.version?_drawn (Nat.lt_succ_self w.issued)
  change List.find? _ (w.store.versions ++ [_]) = _
  rw [List.find?_append]
  change (w.store.version? _).or _ = _
  rw [show (nextVersion w flowId canvas p message).id = s!"id-{w.issued.succ}" from rfl, hfresh]
  simp [nextVersion, FlowVersion.written]

lemma skip : Filed catalogue { w with issued := w.issued + 1 } where
  compiled := h.compiled
  current := h.current
  drawn := fun v hv => by
    obtain ⟨n, hn, hid⟩ := h.drawn v hv
    exact ⟨n, Nat.le_succ_of_le hn, hid⟩

lemma withVersion (hc : canvas.compile catalogue = .ok (.ofCanvas canvas catalogue)) :
    Filed catalogue (Versions.withVersion w
      (nextVersion w flowId canvas (.ofCanvas canvas catalogue) message)) where
  compiled := by
    intro v hv
    rcases List.mem_append.mp hv with hv | hv
    · exact h.compiled v hv
    · obtain rfl := List.mem_singleton.mp hv
      exact ⟨canvas, hc, rfl, rfl⟩
  current := by
    intro f hf id hid
    obtain ⟨g, hg, rfl⟩ := List.mem_map.mp hf
    rw [Store.pointAt] at hid
    split at hid
    · obtain rfl := Option.some.inj hid
      exact ⟨_, h.version?_withVersion⟩
    · obtain ⟨v, hv⟩ := h.current g hg id hid
      refine ⟨v, ?_⟩
      change List.find? _ (w.store.versions ++ [_]) = _
      rw [List.find?_append]
      exact Option.or_eq_some_iff.mpr (.inl hv)
  drawn := by
    intro v hv
    rcases List.mem_append.mp hv with hv | hv
    · exact h.skip.drawn v hv
    · obtain rfl := List.mem_singleton.mp hv
      exact ⟨w.issued + 1, Nat.le_refl _, rfl⟩

end Filed

def Files (catalogue : Catalogue) {α : Type} (x : Action α) (w : World) : Prop :=
  match x w with
  | .ok _ w' => Filed catalogue w'
  | .error _ w' => Filed catalogue w'

lemma Files.map {α β : Type} {x : Action α} {g : α → β} (h : Files catalogue x w) :
    Files catalogue (g <$> x) w := by
  rw [Files, Action.map_apply]
  rw [Files] at h
  cases hx : x w <;> simpa [hx] using h

lemma Filed.createFlow_files (h : Filed catalogue w) (name canvasType : String)
    (parentId : Option String) :
    Files catalogue (createFlow name canvasType parentId) w := by
  have hdraw : World.drawId w = .ok s!"id-{w.issued + 1}" { w with issued := w.issued + 1 } := rfl
  rw [Files, createFlow, Action.bind_of_ok hdraw, Action.bind_of_ok Action.get_apply,
    Action.bind_apply]
  simp only [World.writeStore, World.write_apply, Store.createFlow]
  cases w.store.flow? s!"id-{w.issued + 1}" with
  | some f => exact h.skip
  | none =>
    refine ⟨h.compiled, ?_, h.skip.drawn⟩
    intro f hf id hid
    rcases List.mem_append.mp hf with hf | hf
    · exact h.current f hf id hid
    · obtain rfl := List.mem_singleton.mp hf
      cases hid

lemma Filed.createVersion_files (h : Filed catalogue w) (flowId : String) (canvas : Canvas)
    (message : Option String) :
    Files catalogue (createVersion catalogue flowId canvas message) w := by
  rw [Files]
  cases hc : canvas.compile catalogue with
  | error findings =>
    rw [createVersion_invalid hc]
    exact h
  | ok p =>
    obtain ⟨_, rfl⟩ := Canvas.compile_eq_ok hc
    cases hf : w.store.flow? flowId with
    | some f =>
      rw [h.createVersion_eq hc hf]
      exact h.withVersion hc
    | none =>
      have hno : Store.insertVersion w.now
          (nextVersion w flowId canvas (.ofCanvas canvas catalogue) message) w.store =
          .error (.flowNotFound flowId) := by
        simp only [Store.insertVersion, nextVersion, hf]
      rw [createVersion_valid hc, hno]
      exact h.skip

section Flow

variable (hf : w.store.flow? flowId = some f)

include hf

lemma versionFor_first (hcur : f.currentVersionId = none) :
    versionFor catalogue flowId canvas w =
      (FlowVersion.id <$> createVersion catalogue flowId canvas (some firstMessage)) w := by
  rw [versionFor, Action.bind_of_ok Action.get_apply, hf]
  dsimp only
  rw [hcur]
  rfl

lemma versionFor_next {current : String} (hcur : f.currentVersionId = some current)
    (hv : w.store.version? current = some v) :
    versionFor catalogue flowId canvas w =
      if v.canvas.sameAs canvas = true then .ok current w
      else (FlowVersion.id <$> createVersion catalogue flowId canvas (some nextMessage)) w := by
  rw [versionFor, Action.bind_of_ok Action.get_apply, hf]
  dsimp only
  rw [hcur]
  dsimp only
  rw [Action.bind_of_ok Action.get_apply, hv, Option.any_some]
  split <;> rfl

end Flow

lemma Filed.versionFor_files (h : Filed catalogue w) (flowId : String) (canvas : Canvas) :
    Files catalogue (versionFor catalogue flowId canvas) w := by
  cases hf : w.store.flow? flowId with
  | none =>
    rw [Files, versionFor, Action.bind_of_ok Action.get_apply, hf]
    exact h
  | some f =>
    rw [Files]
    cases hcur : f.currentVersionId with
    | none =>
      rw [versionFor_first hf hcur]
      exact (h.createVersion_files flowId canvas _).map
    | some current =>
      obtain ⟨v, hv⟩ := h.current f (List.mem_of_find?_eq_some hf) current hcur
      rw [versionFor_next hf hcur hv]
      by_cases hs : v.canvas.sameAs canvas = true
      · rw [if_pos hs]
        exact h
      · rw [if_neg hs]
        exact (h.createVersion_files flowId canvas _).map

lemma Filed.perform (h : Filed catalogue w) : ∀ c : Saving, Files catalogue (c.perform catalogue) w
  | .createFlow name canvasType parentId => (h.createFlow_files name canvasType parentId).map
  | .createVersion flowId canvas message => (h.createVersion_files flowId canvas message).map
  | .versionFor flowId canvas => (h.versionFor_files flowId canvas).map

lemma Filed.start : Filed catalogue .start := ⟨nofun, nofun, nofun⟩

lemma Filed.later (h : Filed catalogue w) (now : Instant) : Filed catalogue { w with now } :=
  ⟨h.compiled, h.current, h.drawn⟩

def asking (default? : Option DefaultValue) : Canvas :=
  let text : InputSchema := ⟨none, some true, none, default?⟩
  let worker := CanvasNode.bare "W" .worker [("webhook_url", .str "http://host")]
  ⟨some [{ worker with
    data? := some { worker.data with inputs? := some (some [("text", text)]) } }], none⟩

lemma asking_compile :
    (asking (some (.json .null))).compile [] = .ok (.ofCanvas (asking (some (.json .null))) []) :=
  Canvas.compile_of_checks (by decide +kernel) (by decide +kernel) (by decide +kernel)

end Versions

end Workflow
