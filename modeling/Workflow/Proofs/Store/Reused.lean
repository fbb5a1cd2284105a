import Workflow.Proofs.Document.Steady
import Workflow.Proofs.Engine.Finished
import Workflow.Proofs.Store.Annals

/-! Worlds in which flows and versions are saved while runs take place. A canvas that a version was
found for gets the same version again, however its document is spelled, exactly if it is the same as
what is read back of it. -/

namespace Workflow

lemma Plan.node?_written (p : Plan) (id : String) :
    p.written.node? id = (p.node? id).map PlanNode.written := Keyed.find?_mapValues _

lemma Plan.nodeIds_written (p : Plan) : p.written.nodeIds = p.nodeIds := Keyed.keys_mapValues _ _

lemma Plan.WellFormed.written {p : Plan} (h : p.WellFormed) : p.written.WellFormed where
  nodup := p.nodeIds_written ▸ h.nodup
  id_eq hn := by
    rw [node?_written] at hn
    obtain ⟨n, hn', rfl⟩ := Option.map_eq_some_iff.mp hn
    have hid := h.id_eq hn'
    exact hid
  executable hn := by
    rw [node?_written] at hn
    obtain ⟨n, hn', rfl⟩ := Option.map_eq_some_iff.mp hn
    have hkind := h.executable hn'
    exact hkind
  child_mem hc := p.nodeIds_written ▸ h.child_mem hc
  parent_mem hc := p.nodeIds_written ▸ h.parent_mem hc
  parents_iff := h.parents_iff
  entry_iff := p.nodeIds_written ▸ h.entry_iff
  upward := h.upward

namespace World

variable {w : World}

lemma Sane.stocked (hw : w.Sane) (flows : List Flow) (more : List FlowVersion) (event : Event)
    (hplan : ∀ v ∈ more, v.plan.WellFormed) (hk : event.kind ≠ .nodeStatusChanged) :
    World.Sane { w with
      issued := w.issued + 1
      store := { w.store with flows, versions := w.store.versions ++ more }.log event } where
  rival := hw.rival
  compiled {id v} hv := by
    change List.find? _ (w.store.versions ++ more) = _ at hv
    rw [List.find?_append, Option.or_eq_some_iff] at hv
    rcases hv with hv | ⟨-, hv⟩
    · exact hw.compiled hv
    · exact hplan v (List.mem_of_find?_eq_some hv)
  run {id r} hr := by
    obtain ⟨v, hv, hr⟩ := hw.run hr
    refine ⟨v, ?_, hr⟩
    change List.find? _ (w.store.versions ++ more) = _
    rw [List.find?_append]
    exact Option.or_eq_some_iff.mpr (.inl hv)
  unknown {id key} hno := by
    change startsIn id key (Store.logAll _ [event]).events = _
    have hzero : startsIn id key [event] = 0 := startsIn_eq_zero (by simpa using hk)
    rw [startsIn_logAll, hzero, Nat.add_zero]
    exact hw.unknown hno

end World

namespace Versions

def Saving.Parsed : Saving → Prop
  | .createFlow _ _ _ => True
  | .createVersion _ canvas _ => canvas.Parsed
  | .versionFor _ canvas => canvas.Parsed

def Saving.target? : Saving → Option String
  | .createFlow _ _ _ => none
  | .createVersion flowId _ _ => some flowId
  | .versionFor flowId _ => some flowId

inductive Deed where
  | save (c : Saving)
  | act (e : Engine) (a : Engine.Activity)

namespace Deed

def Parsed : Deed → Prop
  | .save c => c.Parsed
  | .act _ _ => True

def after (catalogue : Catalogue) (w : World) : Deed → World
  | .save c => (c.perform catalogue).leaves w
  | .act e a => a.after e w

end Deed

def afterDeeds (catalogue : Catalogue) (w : World) (deeds : List Deed) : World :=
  deeds.foldl (Deed.after catalogue) w

inductive Saving.Leaves (catalogue : Catalogue) (c : Saving) (w : World) : World → Prop
  | same : Leaves catalogue c w w
  | drawn : Leaves catalogue c w { w with issued := w.issued + 1 }
  | flow (name canvasType : String) (parentId : Option String)
      (hnew : w.store.flow? (nextFlow w name canvasType parentId).id = none) :
      Leaves catalogue c w (withFlow w (nextFlow w name canvasType parentId))
  | version {f : Flow} (flowId : String) (canvas : Canvas) (message : Option String)
      (ht : c.target? = some flowId) (hf : w.store.flow? flowId = some f)
      (hc : canvas.compile catalogue = .ok (.ofCanvas canvas catalogue))
      (hp : c.Parsed → canvas.Parsed) :
      Leaves catalogue c w
        (withVersion w (nextVersion w flowId canvas (.ofCanvas canvas catalogue) message))

variable {catalogue : Catalogue} {w w' : World} {flowId id : String} {canvas : Canvas}

lemma Filed.versionFor_ok (h : Filed catalogue w)
    (hc : versionFor catalogue flowId canvas w = .ok id w') :
    (w' = w ∧ current? w flowId = some id ∧
      ∃ v, w.store.version? id = some v ∧ v.canvas.sameAs canvas = true) ∨
    ∃ message v, createVersion catalogue flowId canvas message w = .ok v w' ∧ v.id = id := by
  cases hf : w.store.flow? flowId with
  | none =>
    rw [versionFor, Action.bind_of_ok Action.get_apply, hf] at hc
    cases hc
  | some f =>
    cases hcur : f.currentVersionId with
    | none =>
      rw [versionFor_first hf hcur] at hc
      exact .inr ⟨_, Action.map_eq_ok.mp hc⟩
    | some current =>
      obtain ⟨v, hv⟩ := h.current f (List.mem_of_find?_eq_some hf) current hcur
      rw [versionFor_next hf hcur hv] at hc
      split at hc
      · rename_i hs
        obtain ⟨rfl, rfl⟩ := EStateM.Result.ok.inj hc
        exact .inl ⟨rfl, by rw [current?, hf]; exact hcur, v, hv, hs⟩
      · exact .inr ⟨_, Action.map_eq_ok.mp hc⟩

lemma Filed.leaves (h : Filed catalogue w) (c : Saving) :
    c.Leaves catalogue w ((c.perform catalogue).leaves w) := by
  rw [Action.leaves]
  cases hr : c.perform catalogue w with
  | error f w' =>
    rcases h.perform_error c hr with rfl | rfl
    · exact .same
    · exact .drawn
  | ok _ w' =>
    cases c with
    | createFlow name canvasType parentId =>
      obtain ⟨f, hc, -⟩ := Action.map_eq_ok.mp hr
      rw [createFlow_eq] at hc
      split at hc
      · cases hc
      · rename_i hnew
        obtain ⟨-, rfl⟩ := EStateM.Result.ok.inj hc
        exact .flow name canvasType parentId hnew
    | createVersion flowId canvas message =>
      obtain ⟨v, hc, -⟩ := Action.map_eq_ok.mp hr
      obtain ⟨hcompile, ⟨f, hf⟩, rfl, rfl⟩ := h.createVersion_ok hc
      exact .version flowId canvas message rfl hf hcompile id
    | versionFor flowId canvas =>
      obtain ⟨v, hc, -⟩ := Action.map_eq_ok.mp hr
      rcases h.versionFor_ok hc with ⟨rfl, -⟩ | ⟨message, v, hv, -⟩
      · exact .same
      · obtain ⟨hcompile, ⟨f, hf⟩, rfl, rfl⟩ := h.createVersion_ok hv
        exact .version flowId canvas message rfl hf hcompile id

structure Shelved (catalogue : Catalogue) (w : World) : Prop where
  sane : w.Sane
  filed : Filed catalogue w
  current_eq : ∀ flowId,
    current? w flowId = ((ofFlow w.store.versions flowId).getLast?).map (·.id)
  parsed : ∀ v ∈ w.store.versions, v.canvas.Parsed

namespace Shelved

lemma start : Shelved catalogue .start where
  sane := ⟨rfl, nofun, nofun, fun _ => rfl⟩
  filed := .start
  current_eq _ := rfl
  parsed _ hv := absurd hv List.not_mem_nil

variable (h : Shelved catalogue w)
include h

lemma frame (hs : w'.Sane) (hf : w'.store.flows = w.store.flows)
    (hv : w'.store.versions = w.store.versions) (hi : w.issued ≤ w'.issued) :
    Shelved catalogue w' where
  sane := hs
  filed := by
    refine ⟨hv ▸ h.filed.compiled, ?_, ?_⟩
    · intro f hmem id hid
      rw [Store.version?, hv]
      exact h.filed.current f (hf ▸ hmem) id hid
    · intro v hmem
      obtain ⟨n, hn, hid⟩ := h.filed.drawn v (hv ▸ hmem)
      exact ⟨n, hn.trans hi, hid⟩
  current_eq flowId := by
    rw [current?, Store.flow?, hf, hv]
    exact h.current_eq flowId
  parsed := hv ▸ h.parsed

lemma skip : Shelved catalogue { w with issued := w.issued + 1 } :=
  h.frame ⟨h.sane.rival, h.sane.compiled, h.sane.run, h.sane.unknown⟩ rfl rfl (Nat.le_succ _)

lemma opens (name canvasType : String) (parentId : Option String)
    (hnew : w.store.flow? (nextFlow w name canvasType parentId).id = none) :
    Shelved catalogue (withFlow w (nextFlow w name canvasType parentId)) where
  sane := by
    let f := nextFlow w name canvasType parentId
    have hs := h.sane.stocked (w.store.flows ++ [f]) [] (Store.flowCreated w.now f) (by simp)
      (by simp [Store.flowCreated])
    rwa [List.append_nil] at hs
  filed := by
    have hfiles := h.filed.createFlow_files name canvasType parentId
    rwa [Files, createFlow_eq, hnew] at hfiles
  current_eq id := (current?_withFlow hnew rfl id).trans (h.current_eq id)
  parsed := h.parsed

lemma saves {f : Flow} {message : Option String}
    (hc : canvas.compile catalogue = .ok (.ofCanvas canvas catalogue))
    (hf : w.store.flow? flowId = some f) (hp : canvas.Parsed) :
    Shelved catalogue (withVersion w
      (nextVersion w flowId canvas (.ofCanvas canvas catalogue) message)) where
  sane := by
    refine h.sane.stocked _ [_] _ (fun v hv => ?_) nofun
    obtain rfl := List.mem_singleton.mp hv
    exact (Canvas.compile_wellFormed hc).written
  filed := h.filed.withVersion hc
  current_eq id := by
    change _ = ((ofFlow (w.store.versions ++ [_]) id).getLast?).map _
    rw [current?_withVersion (f := f) hf, ofFlow_snoc, h.current_eq]
    rw [FlowVersion.flowId_written]
    split <;> simp
  parsed v hv := by
    rcases List.mem_append.mp hv with hv | hv
    · exact h.parsed v hv
    · obtain rfl := List.mem_singleton.mp hv
      exact hp.written

lemma save {c : Saving} (hp : c.Parsed) : Shelved catalogue ((c.perform catalogue).leaves w) := by
  have hleaves := h.filed.leaves c
  generalize (c.perform catalogue).leaves w = w' at hleaves ⊢
  cases hleaves with
  | same => exact h
  | drawn => exact h.skip
  | flow name canvasType parentId hnew => exact h.opens name canvasType parentId hnew
  | version flowId canvas message _ hf hc hcanvas => exact h.saves hc hf (hcanvas hp)

end Shelved

lemma shelved_persists (catalogue : Catalogue) (versions : List FlowVersion) :
    Engine.Persists fun w => Shelved catalogue w ∧ w.store.versions = versions where
  sane h := h.1.sane
  advanced {e w id p r queue ws qs} := by
    rintro ⟨h, rfl⟩ hwf hh hso hforms hadv
    obtain ⟨hflows, hversions, hissued⟩ := World.shelf_recordAll (w := w) id ws
    have hsane : (e.handOver (w.recordAll id ws) qs).Sane :=
      Engine.sane_handOver (h.sane.recordAll hwf hh hso hforms hadv.lawful)
    exact ⟨h.frame hsane hflows hversions hissued.ge, hversions⟩
  born {w versionId v} trigger entityId input := by
    rintro ⟨h, rfl⟩ hv hnone
    exact ⟨h.frame (Engine.sane_withCreated h.sane hv hnone) rfl rfl (Nat.le_succ _), rfl⟩
  drawn h := ⟨h.1.skip, h.2⟩
  waited now h := by
    have hs := h.1.sane
    exact ⟨h.1.frame ⟨hs.rival, hs.compiled, hs.run, hs.unknown⟩ rfl rfl le_rfl, h.2⟩

namespace Shelved

variable (h : Shelved catalogue w)
include h

lemma act (e : Engine) (a : Engine.Activity) :
    Shelved catalogue (a.after e w) ∧ (a.after e w).store.versions = w.store.versions := by
  have hops : ∃ ops, a.after e w = Engine.afterOperations w ops ∧ ∀ op ∈ ops, True :=
    Engine.exists_operations (fun _ => True) (fun _ _ _ => trivial) w
      (show ∀ b ∈ [(e, a)], ∀ op, b.2 = .operation op → True from fun _ _ _ _ => trivial)
  obtain ⟨ops, hops, -⟩ := hops
  rw [hops]
  exact (shelved_persists catalogue w.store.versions).afterOperations ops ⟨h, rfl⟩

lemma save_extends (c : Saving) :
    w.store.versions <+: ((c.perform catalogue).leaves w).store.versions := by
  have hleaves := h.filed.leaves c
  generalize (c.perform catalogue).leaves w = w' at hleaves ⊢
  cases hleaves with
  | version => exact List.prefix_append _ _
  | _ => exact List.prefix_rfl

lemma deed {d : Deed} (hd : d.Parsed) : Shelved catalogue (d.after catalogue w) ∧
    w.store.versions <+: (d.after catalogue w).store.versions := by
  cases d with
  | save c => exact ⟨h.save hd, h.save_extends c⟩
  | act e a =>
    obtain ⟨hs, hv⟩ := h.act e a
    exact ⟨hs, hv ▸ List.prefix_rfl⟩

lemma deeds {ds : List Deed} (hds : ∀ d ∈ ds, d.Parsed) :
    Shelved catalogue (afterDeeds catalogue w ds) ∧
      w.store.versions <+: (afterDeeds catalogue w ds).store.versions := by
  induction ds generalizing w with
  | nil => exact ⟨h, List.prefix_rfl⟩
  | cons d ds ih =>
    obtain ⟨hd, hrest⟩ := List.forall_mem_cons.mp hds
    obtain ⟨h₁, hprefix⟩ := h.deed hd
    obtain ⟨h₂, hprefix'⟩ := ih h₁ hrest
    exact ⟨h₂, hprefix.trans hprefix'⟩

lemma ofFlow_deed {d : Deed} (hd : ∀ c, d = .save c → c.target? ≠ some flowId) :
    ofFlow (d.after catalogue w).store.versions flowId = ofFlow w.store.versions flowId := by
  cases d with
  | save c =>
    have hleaves := h.filed.leaves c
    rw [Deed.after]
    generalize (c.perform catalogue).leaves w = w' at hleaves ⊢
    cases hleaves with
    | version other canvas message ht =>
      have hne : other ≠ flowId := fun he => hd c rfl (he ▸ ht)
      change ofFlow (w.store.versions ++ [_]) flowId = _
      rw [ofFlow_snoc, FlowVersion.flowId_written, nextVersion, if_neg hne, List.append_nil]
    | _ => rfl
  | act e a => rw [Deed.after, (h.act e a).2]

lemma ofFlow_deeds {ds : List Deed} (hds : ∀ d ∈ ds, d.Parsed)
    (hother : ∀ d ∈ ds, ∀ c, d = .save c → c.target? ≠ some flowId) :
    ofFlow (afterDeeds catalogue w ds).store.versions flowId = ofFlow w.store.versions flowId := by
  induction ds generalizing w with
  | nil => rfl
  | cons d ds ih =>
    obtain ⟨hd, hrest⟩ := List.forall_mem_cons.mp hds
    obtain ⟨hod, horest⟩ := List.forall_mem_cons.mp hother
    exact (ih (h.deed hd).1 hrest horest).trans (h.ofFlow_deed hod)

lemma versionFor_current (hself : canvas.written.sameAs canvas = true)
    (hc : versionFor catalogue flowId canvas w = .ok id w') :
    current? w' flowId = some id ∧
      ∃ v, w'.store.version? id = some v ∧ v.canvas.sameAs canvas = true := by
  rcases h.filed.versionFor_ok hc with ⟨rfl, hcur, hv⟩ | ⟨message, v, hv, rfl⟩
  · exact ⟨hcur, hv⟩
  · obtain ⟨hcompile, ⟨f, hf⟩, rfl, rfl⟩ := h.filed.createVersion_ok hv
    refine ⟨?_, _, h.filed.version?_withVersion, hself⟩
    rw [current?_withVersion (f := f) hf, nextVersion, if_pos rfl]

lemma versionFor (hp : canvas.Parsed)
    (hc : Versions.versionFor catalogue flowId canvas w = .ok id w') : Shelved catalogue w' := by
  have hperform : (Saving.versionFor flowId canvas).perform catalogue w = .ok () w' :=
    Action.map_eq_ok.mpr ⟨id, hc, rfl⟩
  have hsave := h.save (c := .versionFor flowId canvas) hp
  rwa [Action.leaves, hperform] at hsave

end Shelved

lemma version?_of_prefix {s t : Store} {v : FlowVersion} (h : s.versions <+: t.versions)
    (hv : s.version? id = some v) : t.version? id = some v := by
  obtain ⟨more, hmore⟩ := h
  rw [Store.version?, ← hmore, List.find?_append]
  exact Option.or_eq_some_iff.mpr (.inl hv)

lemma versionFor_of_current {v : FlowVersion} (hcur : current? w flowId = some id)
    (hv : w.store.version? id = some v) (hs : v.canvas.sameAs canvas = true) :
    versionFor catalogue flowId canvas w = .ok id w := by
  obtain ⟨f, hf, hfcur⟩ := Option.bind_eq_some_iff.mp hcur
  rw [versionFor_next hf hfcur hv, if_pos hs]

lemma Shelved.steady_of_same (h : Shelved catalogue w) (hp : canvas.Parsed)
    (hc : Versions.versionFor catalogue flowId canvas w = .ok id w) : canvas.Steady := by
  rcases h.filed.versionFor_ok hc with ⟨-, -, v, hv, hs⟩ | ⟨message, v, hv, -⟩
  · have hmem := List.mem_of_find?_eq_some hv
    obtain ⟨c, -, hcanvas, -⟩ := h.filed.compiled v hmem
    have hsteady : v.canvas.Steady := hcanvas ▸ c.steady_written
    exact hsteady.of_sameAs (h.parsed v hmem) hp hs
  · obtain ⟨-, -, -, hw⟩ := h.filed.createVersion_ok hv
    have hissued : w.issued = w.issued + 1 := congrArg World.issued hw
    omega

/-- Whatever was saved and run before, and whatever then happens to runs and is saved without a new
version of the flow: a canvas that a version was found for gets it again, in every spelling of its
document, and nothing is written, exactly if the canvas is steady. -/
theorem respelled_canvas_keeps_version_iff {before : List Deed} (hbefore : ∀ d ∈ before, d.Parsed)
    {x : Json} (hx : x.distinct = true) (hread : Canvas.read x = .ok canvas)
    (hc : versionFor catalogue flowId canvas (afterDeeds catalogue .start before) = .ok id w) :
    canvas.Steady ↔ ∀ later : List Deed, (∀ d ∈ later, d.Parsed) →
      ofFlow (afterDeeds catalogue w later).store.versions flowId =
        ofFlow w.store.versions flowId →
      ∀ y, Canvas.Respelled x y → ∃ c, Canvas.read y = .ok c ∧
        versionFor catalogue flowId c (afterDeeds catalogue w later) =
          .ok id (afterDeeds catalogue w later) := by
  have hparsed : canvas.Parsed := ⟨x, hx, hread⟩
  have hstart : Shelved catalogue .start := .start
  obtain ⟨h₀, -⟩ := hstart.deeds hbefore
  have h₁ : Shelved catalogue w := h₀.versionFor hparsed hc
  constructor
  · intro hsteady later hlater hnone y hy
    obtain ⟨hcur, v, hv, hs⟩ := h₀.versionFor_current (Canvas.written_sameAs hparsed hsteady) hc
    obtain ⟨h₂, hprefix⟩ := h₁.deeds hlater
    have hv₂ := version?_of_prefix hprefix hv
    have hcur₂ : current? (afterDeeds catalogue w later) flowId = some id := by
      rw [h₂.current_eq, hnone, ← h₁.current_eq, hcur]
    obtain ⟨-, c, hread', hs'⟩ := Canvas.sameAs_respelled hy hx hread hs
    exact ⟨c, hread', versionFor_of_current hcur₂ hv₂ hs'⟩
  · intro hagain
    obtain ⟨c, hread', hsame⟩ := hagain [] (List.forall_mem_nil _) rfl x .refl
    obtain rfl : canvas = c := Checked.ok.inj (hread.symm.trans hread')
    exact h₁.steady_of_same hparsed hsame

def boxedWorker (parent : String) : Keyed Json :=
  [("id", .str "work"), ("type", .str "Worker"), (parent, .str "box"),
    ("data", .obj [("config", .obj [("webhook_url", .str "http://worker")])])]

def drawing (members : Keyed Json) : Json := .obj [("nodes", .arr [.obj members])]

def boxedCanvas : Canvas where
  nodes? := some
    [{ CanvasNode.bare "work" .worker [("webhook_url", .str "http://worker")] with
       parent? := some (some "box") }]
  edges? := none

lemma boxedCanvas_compile : boxedCanvas.compile [] = .ok (.ofCanvas boxedCanvas []) :=
  Canvas.compile_of_checks (by decide +kernel) (by decide +kernel) (by decide +kernel)

lemma drawing_respelled : Canvas.Respelled (drawing (boxedWorker "parent_node"))
    (drawing (boxedWorker "parentNode").reverse) := by
  have hinside : ∀ {ms ns : Keyed Json}, Respells CanvasNode.shape (.obj ms) (.obj ns) →
      Respells Canvas.shape (drawing ms) (drawing ns) := fun h =>
    @Respells.field _ (.plain "nodes") (.list CanvasNode.shape) [] [] _ _ _ _ (by simp) (.inl rfl)
      (.inl rfl) (by decide) (@Respells.item _ [] [] _ _ h)
  have hrename : Respells CanvasNode.shape (.obj (boxedWorker "parent_node"))
      (.obj (boxedWorker "parentNode")) :=
    @Respells.field _ CanvasNode.parentField .value ((boxedWorker "").take 2)
      ((boxedWorker "").drop 3) _ _ _ _ (by simp) (.inr ⟨rfl, by decide⟩) (.inl rfl) (by decide)
      (.order (.refl _) rfl)
  have hreverse : Respells CanvasNode.shape (.obj (boxedWorker "parentNode"))
      (.obj (boxedWorker "parentNode").reverse) :=
    .of_perm (List.reverse_perm _).symm (by decide +kernel)
  exact .tail (.single (hinside hrename)) (hinside hreverse)

def opening : List Deed := [.save (.createFlow "flow" "workflow" none)]

def elsewhere : List Deed :=
  [.save (.createFlow "other" "workflow" none), .save (.versionFor "id-3" boxedCanvas),
    .act Engine.accepting (.operation (.start "id-2" .byHand none none))]

theorem boxed_worker_keeps_version : ∃ w c,
    versionFor [] "id-1" boxedCanvas (afterDeeds [] .start opening) = .ok "id-2" w ∧
    Canvas.read (drawing (boxedWorker "parentNode").reverse) = .ok c ∧
    versionFor [] "id-1" c (afterDeeds [] w elsewhere) =
      .ok "id-2" (afterDeeds [] w elsewhere) := by
  have hx : (drawing (boxedWorker "parent_node")).distinct = true := by decide +kernel
  have hread : Canvas.read (drawing (boxedWorker "parent_node")) = .ok boxedCanvas := by
    decide +kernel
  have hparsed : boxedCanvas.Parsed := ⟨_, hx, hread⟩
  have hopening : ∀ d ∈ opening, d.Parsed := by simp [opening, Deed.Parsed, Saving.Parsed]
  have helsewhere : ∀ d ∈ elsewhere, d.Parsed := by
    simp [elsewhere, Deed.Parsed, Saving.Parsed, hparsed]
  have hstart : Shelved [] .start := .start
  obtain ⟨h₀, -⟩ := hstart.deeds hopening
  let w₀ := afterDeeds [] .start opening
  have hf : w₀.store.flow? "id-1" = some (nextFlow .start "flow" "workflow" none) := by rfl
  let v := nextVersion w₀ "id-1" boxedCanvas (.ofCanvas boxedCanvas []) (some firstMessage)
  have hid : v.id = "id-2" := by decide +kernel
  have hc : versionFor [] "id-1" boxedCanvas w₀ = .ok "id-2" (withVersion w₀ v) := by
    rw [versionFor_first hf rfl, Action.map_apply, h₀.filed.createVersion_eq boxedCanvas_compile hf]
    exact congrArg (EStateM.Result.ok · _) hid
  have hnone : ofFlow (afterDeeds [] (withVersion w₀ v) elsewhere).store.versions "id-1" =
      ofFlow (withVersion w₀ v).store.versions "id-1" :=
    (h₀.versionFor hparsed hc).ofFlow_deeds helsewhere (by simp [elsewhere, Saving.target?])
  have hsteady : boxedCanvas.Steady := by
    have hwritten : boxedCanvas.written = boxedCanvas := by decide +kernel
    exact hwritten ▸ boxedCanvas.steady_written
  obtain ⟨c, hread', hsame⟩ := (respelled_canvas_keeps_version_iff hopening hx hread hc).mp hsteady
    elsewhere helsewhere hnone _ drawing_respelled
  exact ⟨_, c, hc, hread', hsame⟩

def unmeasured : Canvas where
  nodes? := some [{ CanvasNode.bare "form" .ux [] with
    data? := none
    width? := some (some (.nan false)) }]
  edges? := none

theorem unmeasured_canvas_new_versions :
    (drawing [("id", .str "form"), ("type", .str "UX"), ("width", .str "nan")]).distinct = true ∧
    Canvas.read (drawing [("id", .str "form"), ("type", .str "UX"), ("width", .str "nan")]) =
      .ok unmeasured ∧
    ∃ w w', versionFor [] "id-1" unmeasured (afterDeeds [] .start opening) = .ok "id-2" w ∧
      versionFor [] "id-1" unmeasured w = .ok "id-3" w' := by
  -- A form whose width is the text "nan" gets a new version with every call.
  have hx : (drawing [("id", .str "form"), ("type", .str "UX"),
      ("width", .str "nan")]).distinct = true := by decide +kernel
  have hread : Canvas.read (drawing [("id", .str "form"), ("type", .str "UX"),
      ("width", .str "nan")]) = .ok unmeasured := by decide +kernel
  have hcompile : unmeasured.compile [] = .ok (.ofCanvas unmeasured []) :=
    Canvas.compile_of_checks (by decide +kernel) (by decide +kernel) (by decide +kernel)
  have hopening : ∀ d ∈ opening, d.Parsed := by simp [opening, Deed.Parsed, Saving.Parsed]
  have hstart : Shelved [] .start := .start
  obtain ⟨h₀, -⟩ := hstart.deeds hopening
  let w₀ := afterDeeds [] .start opening
  have hf : w₀.store.flow? "id-1" = some (nextFlow .start "flow" "workflow" none) := by rfl
  let v := nextVersion w₀ "id-1" unmeasured (.ofCanvas unmeasured []) (some firstMessage)
  have hid : v.id = "id-2" := by decide +kernel
  have hc : versionFor [] "id-1" unmeasured w₀ = .ok "id-2" (withVersion w₀ v) := by
    rw [versionFor_first hf rfl, Action.map_apply, h₀.filed.createVersion_eq hcompile hf]
    exact congrArg (EStateM.Result.ok · _) hid
  have h₁ := h₀.versionFor ⟨_, hx, hread⟩ hc
  let w₁ := withVersion w₀ v
  let f := Store.pointAt w₀.now v (nextFlow .start "flow" "workflow" none)
  have hf' : w₁.store.flow? "id-1" = some f := by rfl
  have hv : w₁.store.version? "id-2" = some v.written := hid ▸ h₀.filed.version?_withVersion
  have hne : ¬ v.written.canvas.sameAs unmeasured = true := by decide +kernel
  let v' := nextVersion w₁ "id-1" unmeasured (.ofCanvas unmeasured []) (some nextMessage)
  have hid' : v'.id = "id-3" := by decide +kernel
  have hc' : versionFor [] "id-1" unmeasured w₁ = .ok "id-3" (withVersion w₁ v') := by
    rw [versionFor_next hf' (congrArg some hid) hv, if_neg hne, Action.map_apply,
      h₁.filed.createVersion_eq hcompile hf']
    exact congrArg (EStateM.Result.ok · _) hid'
  exact ⟨hx, hread, _, _, hc, hc'⟩

end Versions

end Workflow
