import Workflow.Proofs.Calendar
import Workflow.Proofs.Store.Versions

/-!
The history of versions. What the calls created is kept beside the world: listings, current versions
and the log are read off from it.
-/

namespace Workflow.Versions

variable {catalogue : Catalogue} {w w' : World} {made : List FlowVersion} {flowId : String}
  {canvas : Canvas} {f : Flow} {message : Option String}

def current? (w : World) (flowId : String) : Option String :=
  (w.store.flow? flowId).bind (·.currentVersionId)

def saved (catalogue : Catalogue) (w : World) (id flowId : String) (canvas : Canvas)
    (message : Option String) : FlowVersion :=
  FlowVersion.written ⟨id, flowId, canvas, .ofCanvas canvas catalogue, message, w.now⟩

/-- The clock moves on, or a call returns or fails. -/
inductive Step (catalogue : Catalogue) :
    World × List FlowVersion → World × List FlowVersion → Prop
  | passes {w : World} {made : List FlowVersion} (now : Instant) (hnow : now.Universal)
      (hle : w.now.micros ≤ now.micros) : Step catalogue (w, made) ({ w with now }, made)
  | opens {w w' : World} {made : List FlowVersion} {f : Flow} (name canvasType : String)
      (parentId : Option String) (hc : createFlow name canvasType parentId w = .ok f w') :
      Step catalogue (w, made) (w', made)
  | creates {w w' : World} {made : List FlowVersion} {v : FlowVersion} (flowId : String)
      (canvas : Canvas) (message : Option String)
      (hc : createVersion catalogue flowId canvas message w = .ok v w') :
      Step catalogue (w, made) (w', made ++ [saved catalogue w v.id flowId canvas message])
  | keeps {w w' : World} {made : List FlowVersion} {id : String} (flowId : String)
      (canvas : Canvas) (hc : versionFor catalogue flowId canvas w = .ok id w')
      (hid : current? w flowId = some id) : Step catalogue (w, made) (w', made)
  | replaces {w w' : World} {made : List FlowVersion} {id : String} (flowId : String)
      (canvas : Canvas) (hc : versionFor catalogue flowId canvas w = .ok id w')
      (hid : current? w flowId ≠ some id) :
      Step catalogue (w, made) (w', made ++ [saved catalogue w id flowId canvas
        (some (if (current? w flowId).isNone then firstMessage else nextMessage))])
  | fails {w w' : World} {made : List FlowVersion} {e : Failure} (c : Saving)
      (hc : c.perform catalogue w = .error e w') : Step catalogue (w, made) (w', made)

def ofFlow (made : List FlowVersion) (flowId : String) : List FlowVersion :=
  made.filter fun v => v.flowId = flowId

def announcement (v : FlowVersion) : Keyed Json :=
  [("version_id", .str v.id), ("commit_message", .ofText? v.message)]

def announced (w : World) (flowId : String) : List (Keyed Json) :=
  (w.store.findEvents (some flowId) none [.versionCreated]).map (·.payload)

structure Annals (catalogue : Catalogue) (w : World) (made : List FlowVersion) : Prop where
  filed : Filed catalogue w
  versions_eq : w.store.versions = made
  shown : w.now.Universal
  dated : ∀ v ∈ made, v.createdAt.Universal ∧ v.createdAt.micros ≤ w.now.micros
  ordered : made.Pairwise fun a b => a.createdAt.micros ≤ b.createdAt.micros
  nodup : (made.map (·.id)).Nodup
  hosted : ∀ v ∈ made, ∃ f, w.store.flow? v.flowId = some f
  current_eq : ∀ flowId, current? w flowId = ((ofFlow made flowId).getLast?).map (·.id)
  announced_eq : ∀ flowId, announced w flowId = (ofFlow made flowId).map announcement

namespace Annals

lemma start {now : Instant} (h : now.Universal) :
    Annals catalogue { World.start with now } [] where
  filed := Filed.start.later now
  versions_eq := rfl
  shown := h
  dated := fun _ hv => absurd hv List.not_mem_nil
  ordered := .nil
  nodup := .nil
  hosted := fun _ hv => absurd hv List.not_mem_nil
  current_eq := fun _ => rfl
  announced_eq := fun _ => rfl

variable (h : Annals catalogue w made)

include h

lemma passes {now : Instant} (hnow : now.Universal) (hle : w.now.micros ≤ now.micros) :
    Annals catalogue { w with now } made where
  filed := ⟨h.filed.compiled, h.filed.current, h.filed.drawn⟩
  versions_eq := h.versions_eq
  shown := hnow
  dated := fun v hv => ⟨(h.dated v hv).1, (h.dated v hv).2.trans hle⟩
  ordered := h.ordered
  nodup := h.nodup
  hosted := h.hosted
  current_eq := h.current_eq
  announced_eq := h.announced_eq

lemma skip : Annals catalogue { w with issued := w.issued + 1 } made where
  filed := h.filed.skip
  versions_eq := h.versions_eq
  shown := h.shown
  dated := h.dated
  ordered := h.ordered
  nodup := h.nodup
  hosted := h.hosted
  current_eq := h.current_eq
  announced_eq := h.announced_eq

lemma listVersions_eq (flowId : String) :
    w.store.listVersions flowId = ((ofFlow made flowId).reverse).map .ofVersion := by
  rw [Store.listVersions, h.versions_eq]
  congr 1
  apply List.mergeSort_of_pairwise
  rw [List.pairwise_reverse]
  have hdated : ∀ v ∈ ofFlow made flowId, v ∈ made := fun v hv => (List.mem_filter.mp hv).1
  refine (h.ordered.filter _).imp_of_mem fun {a b} ha hb hle => ?_
  simpa using Instant.sortText_le (h.dated a (hdated a ha)).1 (h.dated b (hdated b hb)).1 hle

end Annals

def nextFlow (w : World) (name canvasType : String) (parentId : Option String) : Flow :=
  ⟨s!"id-{w.issued + 1}", name, canvasType, parentId, none, w.now, w.now⟩

def withFlow (w : World) (f : Flow) : World :=
  { w with
    issued := w.issued + 1
    store := { w.store with flows := w.store.flows ++ [f] }.log (Store.flowCreated w.now f) }

lemma createFlow_eq (name canvasType : String) (parentId : Option String) :
    createFlow name canvasType parentId w =
      match w.store.flow? (nextFlow w name canvasType parentId).id with
      | some _ => .error (.duplicateId .flows) { w with issued := w.issued + 1 }
      | none => .ok (nextFlow w name canvasType parentId)
          (withFlow w (nextFlow w name canvasType parentId)) := by
  have hdraw : World.drawId w = .ok s!"id-{w.issued + 1}" { w with issued := w.issued + 1 } := rfl
  rw [createFlow, Action.bind_of_ok hdraw, Action.bind_of_ok Action.get_apply]
  change (World.writeStore (fun now =>
    Store.createFlow now (nextFlow w name canvasType parentId)) >>= fun _ => _) _ = _
  rw [Action.bind_apply, World.writeStore, World.write_apply]
  simp only [Store.createFlow]
  cases w.store.flow? (nextFlow w name canvasType parentId).id <;> rfl

lemma flow?_withFlow (g : Flow) (id : String) :
    (withFlow w g).store.flow? id = (w.store.flow? id).or (if g.id = id then some g else none) := by
  change List.find? _ (w.store.flows ++ [g]) = _
  rw [List.find?_append]
  congr 1
  by_cases hid : g.id = id <;> simp [hid]

lemma current?_withFlow {g : Flow} (hnew : w.store.flow? g.id = none)
    (hg : g.currentVersionId = none) (id : String) :
    current? (withFlow w g) id = current? w id := by
  rw [current?, flow?_withFlow, current?]
  by_cases hid : g.id = id
  · subst hid
    rw [hnew]
    simp [hg]
  · simp [hid]

lemma announced_withFlow (g : Flow) (id : String) :
    announced (withFlow w g) id = announced w id := by
  change List.map _ (List.filter _ (w.store.events ++ [_])) = _
  rw [List.filter_append, List.map_append]
  simp [Store.flowCreated, announced, Store.findEvents]

lemma flow?_withVersion (v : FlowVersion) (id : String) :
    (withVersion w v).store.flow? id = (w.store.flow? id).map (Store.pointAt w.now v) := by
  have hkept : (fun g : Flow => decide (g.id = id)) ∘ Store.pointAt w.now v =
      fun g => decide (g.id = id) := by
    funext g
    simp only [Function.comp_apply, Store.pointAt]
    split <;> rfl
  change List.find? _ (w.store.flows.map _) = _
  rw [List.find?_map, hkept]
  rfl

lemma current?_withVersion {v : FlowVersion} (hf : w.store.flow? v.flowId = some f) (id : String) :
    current? (withVersion w v) id = if v.flowId = id then some v.id else current? w id := by
  rw [current?, flow?_withVersion, current?]
  split
  · rename_i hid
    subst hid
    have hfid : f.id = v.flowId := by simpa using List.find?_some hf
    simp [hf, Store.pointAt, hfid]
  · rename_i hid
    cases hg : w.store.flow? id with
    | none => rfl
    | some g =>
      have hgid : g.id = id := by simpa using List.find?_some hg
      simp [Store.pointAt, hgid, Ne.symm hid]

lemma announced_withVersion (v : FlowVersion) (id : String) :
    announced (withVersion w v) id =
      announced w id ++ if v.flowId = id then [announcement v] else [] := by
  change List.map _ (List.filter _ (w.store.events ++ [_])) = _
  rw [List.filter_append, List.map_append]
  congr 1
  by_cases hid : v.flowId = id <;> simp [Store.versionCreated, announcement, hid]

lemma ofFlow_snoc (made : List FlowVersion) (v : FlowVersion) (id : String) :
    ofFlow (made ++ [v]) id = ofFlow made id ++ if v.flowId = id then [v] else [] := by
  rw [ofFlow, List.filter_append]
  congr 1
  by_cases hid : v.flowId = id <;> simp [hid]

namespace Annals

variable (h : Annals catalogue w made)

include h

lemma saves (hc : canvas.compile catalogue = .ok (.ofCanvas canvas catalogue))
    (hf : w.store.flow? flowId = some f) :
    Annals catalogue (withVersion w (nextVersion w flowId canvas (.ofCanvas canvas catalogue) message))
      (made ++ [(nextVersion w flowId canvas (.ofCanvas canvas catalogue) message).written]) where
  filed := h.filed.withVersion hc
  versions_eq := by
    rw [← h.versions_eq]
    rfl
  shown := h.shown
  dated := by
    intro v hv
    rcases List.mem_append.mp hv with hv | hv
    · exact h.dated v hv
    · obtain rfl := List.mem_singleton.mp hv
      exact ⟨h.shown, le_rfl⟩
  ordered := by
    refine List.pairwise_append.mpr ⟨h.ordered, List.pairwise_singleton _ _, fun v hv u hu => ?_⟩
    obtain rfl := List.mem_singleton.mp hu
    exact (h.dated v hv).2
  nodup := by
    rw [List.map_append, List.nodup_append]
    refine ⟨h.nodup, List.nodup_singleton _, ?_⟩
    rintro id hid _ hnext rfl
    obtain rfl := List.mem_singleton.mp hnext
    obtain ⟨v, hv, he⟩ := List.mem_map.mp hid
    obtain ⟨n, hn, hdrawn⟩ := h.filed.drawn v (h.versions_eq ▸ hv)
    have := drawnId_injective (he.symm.trans hdrawn)
    omega
  hosted := by
    intro v hv
    rw [flow?_withVersion]
    rcases List.mem_append.mp hv with hv | hv
    · obtain ⟨g, hg⟩ := h.hosted v hv
      exact ⟨_, by rw [hg]; rfl⟩
    · obtain rfl := List.mem_singleton.mp hv
      exact ⟨_, by rw [FlowVersion.written, nextVersion, hf]; rfl⟩
  current_eq := by
    intro id
    rw [current?_withVersion (f := f) hf, ofFlow_snoc, h.current_eq, FlowVersion.flowId_written]
    split <;> simp
  announced_eq := by
    intro id
    rw [announced_withVersion, ofFlow_snoc, h.announced_eq, List.map_append,
      FlowVersion.flowId_written]
    split <;> rfl

lemma opens (name canvasType : String) (parentId : Option String)
    (hnew : w.store.flow? (nextFlow w name canvasType parentId).id = none) :
    Annals catalogue (withFlow w (nextFlow w name canvasType parentId)) made where
  filed := by
    have hfiles := h.filed.createFlow_files name canvasType parentId
    rwa [Files, createFlow_eq, hnew] at hfiles
  versions_eq := h.versions_eq
  shown := h.shown
  dated := h.dated
  ordered := h.ordered
  nodup := h.nodup
  hosted := by
    intro v hv
    obtain ⟨g, hg⟩ := h.hosted v hv
    exact ⟨g, by rw [flow?_withFlow, hg]; rfl⟩
  current_eq := fun id => (current?_withFlow hnew rfl id).trans (h.current_eq id)
  announced_eq := by
    intro id
    rw [announced_withFlow, h.announced_eq]

lemma version?_of_mem {v : FlowVersion} (hv : v ∈ made) : w.store.version? v.id = some v := by
  have hkeys : (Keyed.keys (made.map fun v => (v.id, v))).Nodup := by
    simpa [Keyed.keys, Function.comp_def] using h.nodup
  have hfind := Keyed.find?_of_mem hkeys (List.mem_map_of_mem hv)
  rw [Keyed.find?_map (g := fun v => v)] at hfind
  rw [Store.version?, h.versions_eq]
  simpa using hfind

end Annals

/-! What the calls leave -/

lemma createVersion_missing {p : Plan} (hc : canvas.compile catalogue = .ok p)
    (hf : w.store.flow? flowId = none) :
    createVersion catalogue flowId canvas message w =
      .error (.flowNotFound flowId) { w with issued := w.issued + 1 } := by
  rw [createVersion_valid hc]
  simp only [Store.insertVersion, nextVersion, hf]

lemma perform_missing {p : Plan} (hc : canvas.compile catalogue = .ok p)
    (hf : w.store.flow? flowId = none) :
    (Saving.createVersion flowId canvas message).perform catalogue w =
      .error (.flowNotFound flowId) { w with issued := w.issued + 1 } :=
  Action.map_eq_error.mpr (createVersion_missing hc hf)

section Calls

variable (h : Filed catalogue w)

include h

lemma Filed.createVersion_ok {v : FlowVersion}
    (hc : createVersion catalogue flowId canvas message w = .ok v w') :
    canvas.compile catalogue = .ok (.ofCanvas canvas catalogue) ∧
      (∃ f, w.store.flow? flowId = some f) ∧
      v = nextVersion w flowId canvas (.ofCanvas canvas catalogue) message ∧
      w' = Versions.withVersion w v := by
  cases hcompile : canvas.compile catalogue with
  | error findings =>
    rw [createVersion_invalid hcompile] at hc
    cases hc
  | ok p =>
    obtain ⟨_, rfl⟩ := Canvas.compile_eq_ok hcompile
    cases hf : w.store.flow? flowId with
    | none =>
      rw [createVersion_missing hcompile hf] at hc
      cases hc
    | some f =>
      rw [h.createVersion_eq hcompile hf] at hc
      obtain ⟨rfl, rfl⟩ := EStateM.Result.ok.inj hc
      exact ⟨rfl, ⟨f, rfl⟩, rfl, rfl⟩

lemma Filed.createVersion_error {e : Failure}
    (hc : createVersion catalogue flowId canvas message w = .error e w') :
    w' = w ∨ w' = { w with issued := w.issued + 1 } := by
  cases hcompile : canvas.compile catalogue with
  | error findings =>
    rw [createVersion_invalid hcompile] at hc
    exact .inl (EStateM.Result.error.inj hc).2.symm
  | ok p =>
    cases hf : w.store.flow? flowId with
    | none =>
      rw [createVersion_missing hcompile hf] at hc
      exact .inr (EStateM.Result.error.inj hc).2.symm
    | some f =>
      rw [h.createVersion_eq hcompile hf] at hc
      cases hc

lemma Filed.versionFor_cases (flowId : String) (canvas : Canvas) :
    versionFor catalogue flowId canvas w = .error (.flowNotFound flowId) w ∨
      (∃ current, current? w flowId = some current ∧
        versionFor catalogue flowId canvas w = .ok current w) ∨
      versionFor catalogue flowId canvas w =
        (FlowVersion.id <$> createVersion catalogue flowId canvas
          (some (if (current? w flowId).isNone then firstMessage else nextMessage))) w := by
  cases hf : w.store.flow? flowId with
  | none =>
    left
    rw [versionFor, Action.bind_of_ok Action.get_apply, hf]
    rfl
  | some f =>
    right
    have hcurrent : current? w flowId = f.currentVersionId := by rw [current?, hf]; rfl
    cases hcur : f.currentVersionId with
    | none =>
      right
      rw [versionFor_first hf hcur, hcurrent, hcur]
      rfl
    | some current =>
      obtain ⟨v, hv⟩ := h.current f (List.mem_of_find?_eq_some hf) current hcur
      rw [versionFor_next hf hcur hv, hcurrent, hcur]
      by_cases hs : v.canvas.sameAs canvas = true
      · exact .inl ⟨current, rfl, if_pos hs⟩
      · exact .inr (if_neg hs)

lemma Filed.current?_ne : current? w flowId ≠ some s!"id-{w.issued + 1}" := by
  intro hid
  obtain ⟨f, hf, hcur⟩ := Option.bind_eq_some_iff.mp hid
  obtain ⟨v, hv⟩ := h.current f (List.mem_of_find?_eq_some hf) _ hcur
  rw [h.version?_drawn (Nat.lt_succ_self _)] at hv
  cases hv

lemma Filed.perform_error {e : Failure} (c : Saving) (hc : c.perform catalogue w = .error e w') :
    w' = w ∨ w' = { w with issued := w.issued + 1 } := by
  cases c with
  | createFlow name canvasType parentId =>
    replace hc := Action.map_eq_error.mp hc
    rw [createFlow_eq] at hc
    split at hc
    · exact .inr (EStateM.Result.error.inj hc).2.symm
    · cases hc
  | createVersion flowId canvas message => exact h.createVersion_error (Action.map_eq_error.mp hc)
  | versionFor flowId canvas =>
    replace hc := Action.map_eq_error.mp hc
    rcases h.versionFor_cases flowId canvas with heq | ⟨current, _, heq⟩ | heq
    · rw [heq] at hc
      exact .inl (EStateM.Result.error.inj hc).2.symm
    · rw [heq] at hc
      cases hc
    · rw [heq] at hc
      exact h.createVersion_error (Action.map_eq_error.mp hc)

end Calls

theorem Annals.step {s s' : World × List FlowVersion} (hs : Step catalogue s s')
    (h : Annals catalogue s.1 s.2) : Annals catalogue s'.1 s'.2 := by
  cases hs with
  | passes now hnow hle => exact h.passes hnow hle
  | opens name canvasType parentId hc =>
    rw [createFlow_eq] at hc
    split at hc
    · cases hc
    · rename_i hnew
      obtain ⟨rfl, rfl⟩ := EStateM.Result.ok.inj hc
      exact h.opens name canvasType parentId hnew
  | creates flowId canvas message hc =>
    obtain ⟨hcompile, ⟨f, hf⟩, rfl, rfl⟩ := h.filed.createVersion_ok hc
    exact h.saves hcompile hf
  | keeps flowId canvas hc hid =>
    rcases h.filed.versionFor_cases flowId canvas with heq | ⟨current, _, heq⟩ | heq
    · rw [heq] at hc
      cases hc
    · rw [heq] at hc
      obtain ⟨rfl, rfl⟩ := EStateM.Result.ok.inj hc
      exact h
    · rw [heq] at hc
      obtain ⟨v, hv, rfl⟩ := Action.map_eq_ok.mp hc
      obtain ⟨_, _, rfl, rfl⟩ := h.filed.createVersion_ok hv
      exact absurd hid h.filed.current?_ne
  | replaces flowId canvas hc hid =>
    rcases h.filed.versionFor_cases flowId canvas with heq | ⟨current, hcurrent, heq⟩ | heq
    · rw [heq] at hc
      cases hc
    · rw [heq] at hc
      obtain ⟨rfl, rfl⟩ := EStateM.Result.ok.inj hc
      exact absurd hcurrent hid
    · rw [heq] at hc
      obtain ⟨v, hv, rfl⟩ := Action.map_eq_ok.mp hc
      obtain ⟨hcompile, ⟨f, hf⟩, rfl, rfl⟩ := h.filed.createVersion_ok hv
      exact h.saves hcompile hf
  | fails c hc =>
    rcases h.filed.perform_error c hc with rfl | rfl
    · exact h
    · exact h.skip

lemma Annals.reached {s s' : World × List FlowVersion}
    (hs : Relation.ReflTransGen (Step catalogue) s s') (h : Annals catalogue s.1 s.2) :
    Annals catalogue s'.1 s'.2 := by
  induction hs with
  | refl => exact h
  | tail _ hstep ih => exact ih.step hstep

lemma made_extends {s s' : World × List FlowVersion}
    (hs : Relation.ReflTransGen (Step catalogue) s s') : s.2 <+: s'.2 := by
  induction hs with
  | refl => exact List.prefix_rfl
  | tail _ hstep ih =>
    cases hstep with
    | creates => exact ih.trans (List.prefix_append _ _)
    | replaces => exact ih.trans (List.prefix_append _ _)
    | _ => exact ih

/-- The listing of a flow, its current version and its log all tell the same history: the versions
created for it, each once, in the order of their creation. A version once created is found as it
was at every later time, and calls that fail leave everything as it was. -/
theorem version_history {now : Instant} (hnow : now.Universal) {w' : World}
    {made' : List FlowVersion}
    (hs : Relation.ReflTransGen (Step catalogue) ({ World.start with now }, []) (w, made))
    (hlater : Relation.ReflTransGen (Step catalogue) (w, made) (w', made')) (flowId : String) :
    w.store.listVersions flowId = ((ofFlow made flowId).reverse).map .ofVersion ∧
    (made.map (·.id)).Nodup ∧
    current? w flowId = (w.store.listVersions flowId).head?.map (·.id) ∧
    announced w flowId = (w.store.listVersions flowId).reverse.map (fun e =>
      [("version_id", .str e.id), ("commit_message", .ofText? e.message)]) ∧
    (∀ v ∈ ofFlow made flowId, w'.store.version? v.id = some v) ∧
    ∀ (c : Saving) (e : Failure) (w₁ : World), c.perform catalogue w = .error e w₁ →
      w₁.store = w.store := by
  have h := Annals.reached hs (.start hnow)
  have hlist := h.listVersions_eq flowId
  refine ⟨hlist, h.nodup, ?_, ?_, ?_, ?_⟩
  · rw [hlist, h.current_eq, List.head?_map, List.head?_reverse, Option.map_map]
    rfl
  · rw [hlist, h.announced_eq, ← List.map_reverse, List.reverse_reverse, List.map_map]
    rfl
  · intro v hv
    have hmade : v ∈ made' := (made_extends hlater).subset (List.mem_filter.mp hv).1
    exact (Annals.reached hlater h).version?_of_mem hmade
  · intro c e w₁ hc
    rcases h.filed.perform_error c hc with rfl | rfl <;> rfl

theorem history_of_two_versions : ∃ (w : World) (made : List FlowVersion),
    Relation.ReflTransGen (Step []) ({ World.start with now := .epoch2024 }, []) (w, made) ∧
    w.store.listVersions "id-1" =
      [⟨"id-4", "id-1", none, Instant.epoch2024.plus 500000⟩,
        ⟨"id-2", "id-1", some "first", .epoch2024⟩] ∧
    current? w "id-1" = some "id-4" := by
  -- Two versions within one second, the second one with a fraction of it, around a call for a flow
  -- that is not there.
  have hnow : Instant.epoch2024.Universal := ⟨rfl, by cbv⟩
  have hhalf : (Instant.epoch2024.plus 500000).Universal := ⟨rfl, by cbv⟩
  let canvas := asking (some (.json .null))
  let plan : Plan := .ofCanvas canvas []
  let w₁ := withFlow .start (nextFlow .start "flow" "workflow" none)
  have hopen : createFlow "flow" "workflow" none .start =
      .ok (nextFlow .start "flow" "workflow" none) w₁ := by rfl
  have hs₁ : Relation.ReflTransGen (Step []) (.start, []) (w₁, []) :=
    .single (.opens _ _ _ hopen)
  have h₁ := Annals.reached hs₁ (.start hnow)
  let v₁ := nextVersion w₁ "id-1" canvas plan (some "first")
  let w₂ := withVersion w₁ v₁
  have hflow₁ : w₁.store.flow? "id-1" = some (nextFlow .start "flow" "workflow" none) := by rfl
  have hfirst : createVersion [] "id-1" canvas (some "first") w₁ = .ok v₁ w₂ :=
    h₁.filed.createVersion_eq asking_compile hflow₁
  have hs₂ : Relation.ReflTransGen (Step []) (.start, []) (w₂, [v₁.written]) :=
    hs₁.tail (.creates "id-1" canvas (some "first") hfirst)
  have hmissing : w₂.store.flow? "nowhere" = none := by
    rw [flow?_withVersion, flow?_withFlow]
    rfl
  let w₃ := { w₂ with issued := w₂.issued + 1 }
  have hs₃ : Relation.ReflTransGen (Step []) (.start, []) (w₃, [v₁.written]) :=
    hs₂.tail
      (.fails (.createVersion "nowhere" canvas none) (perform_missing asking_compile hmissing))
  let w₄ := { w₃ with now := Instant.epoch2024.plus 500000 }
  have hs₄ : Relation.ReflTransGen (Step []) (.start, []) (w₄, [v₁.written]) :=
    hs₃.tail (.passes _ hhalf (by decide))
  have h₄ := Annals.reached hs₄ (.start hnow)
  let v₂ := nextVersion w₄ "id-1" canvas plan none
  have hflow₂ : w₄.store.flow? "id-1" =
      some (Store.pointAt .epoch2024 v₁ (nextFlow .start "flow" "workflow" none)) := by
    change w₂.store.flow? "id-1" = _
    rw [flow?_withVersion, hflow₁]
    rfl
  have hsecond : createVersion [] "id-1" canvas none w₄ = .ok v₂ (withVersion w₄ v₂) :=
    h₄.filed.createVersion_eq asking_compile hflow₂
  have hs : Relation.ReflTransGen (Step []) (.start, [])
      (withVersion w₄ v₂, [v₁.written, v₂.written]) :=
    hs₄.tail (.creates "id-1" canvas none hsecond)
  obtain ⟨hlist, -, hcurrent, -⟩ := version_history hnow hs .refl "id-1"
  have hentries : (withVersion w₄ v₂).store.listVersions "id-1" =
      [⟨"id-4", "id-1", none, Instant.epoch2024.plus 500000⟩,
        ⟨"id-2", "id-1", some "first", .epoch2024⟩] := by
    have hids : s!"id-{2}" = "id-2" ∧ s!"id-{4}" = "id-4" := by decide
    rw [hlist, ← hids.1, ← hids.2]
    rfl
  exact ⟨_, _, hs, hentries, by rw [hcurrent, hentries]; rfl⟩

end Workflow.Versions
