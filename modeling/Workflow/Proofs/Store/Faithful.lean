import Workflow.Proofs.Plan.Compared
import Workflow.Proofs.Store.Reused

/-! Versions that are found for a canvas, compared with the plan that the canvas compiles to. -/

namespace Workflow

namespace Versions

/-- The worlds that the calls lead to under one catalogue, at any times, returning or failing. -/
inductive Reached (catalogue : Catalogue) : World → Prop
  | start : Reached catalogue .start
  | later {w : World} (now : Instant) (h : Reached catalogue w) : Reached catalogue { w with now }
  | called {w : World} (c : Saving) (h : Reached catalogue w) (hp : c.Parsed) :
      Reached catalogue ((c.perform catalogue).leaves w)

variable {catalogue : Catalogue} {w : World} {flowId : String} {canvas : Canvas} {f : Flow}
  {v : FlowVersion} {message : Option String}

lemma Reached.shelved (h : Reached catalogue w) : Shelved catalogue w := by
  induction h with
  | start => exact .start
  | later now _ ih =>
    have hs := ih.sane
    exact ih.frame ⟨hs.rival, hs.compiled, hs.run, hs.unknown⟩ rfl rfl le_rfl
  | called c _ hp ih => exact ih.save hp

/-- The call answers with a version that runs the canvas. A canvas without a plan is refused with
its findings, and nothing is saved. -/
def Faithful (catalogue : Catalogue) (flowId : String) (canvas : Canvas) (w : World) : Prop :=
  match canvas.compile catalogue with
  | .ok p => ∃ id w' v, versionFor catalogue flowId canvas w = .ok id w' ∧
      w'.store.version? id = some v ∧ v.plan.Same p
  | .error findings => versionFor catalogue flowId canvas w = .error (.invalidCanvas findings) w

lemma written_same_iff {p : Plan} (hc : canvas.compile catalogue = .ok p) (hp : canvas.Parsed)
    (hcat : catalogue.Neat) : p.written.Same p ↔ p.Durable := by
  obtain ⟨hfindings, rfl⟩ := Canvas.compile_eq_ok hc
  have hids := Canvas.nodup_of_duplicateNodes (Canvas.checks_of_findings hfindings).1
  exact ⟨fun h => Plan.durable_of_same h hids hp.neat hcat, Plan.Durable.same_written⟩

lemma Filed.faithful_of_new (h : Filed catalogue w) (hf : w.store.flow? flowId = some f)
    (hp : canvas.Parsed) (hcat : catalogue.Neat)
    (heq : versionFor catalogue flowId canvas w =
      (FlowVersion.id <$> createVersion catalogue flowId canvas message) w) :
    Faithful catalogue flowId canvas w ↔ ∀ p, canvas.compile catalogue = .ok p → p.Durable := by
  rw [Faithful]
  cases hc : canvas.compile catalogue with
  | error findings =>
    rw [heq, Action.map_apply, createVersion_invalid hc]
    simp
  | ok p =>
    let v := nextVersion w flowId canvas p message
    have hcall : versionFor catalogue flowId canvas w = .ok v.id (Versions.withVersion w v) := by
      rw [heq, Action.map_apply, h.createVersion_eq hc hf]
    have hfound : (Versions.withVersion w v).store.version? v.id = some v.written :=
      h.version?_withVersion
    rw [hcall]
    constructor
    · rintro ⟨id, w', v', hok, hv', hsame⟩ q hq
      obtain ⟨rfl, rfl⟩ := EStateM.Result.ok.inj hok
      obtain rfl := Option.some.inj (hfound.symm.trans hv')
      obtain rfl := Except.ok.inj hq
      exact (written_same_iff hc hp hcat).mp hsame
    · intro hdurable
      exact ⟨v.id, _, v.written, rfl, hfound, (hdurable p rfl).same_written⟩

lemma faithful_of_current {current : String} (hv : w.store.version? current = some v)
    (heq : versionFor catalogue flowId canvas w = .ok current w) :
    Faithful catalogue flowId canvas w ↔
      ∃ p, canvas.compile catalogue = .ok p ∧ v.plan.Same p := by
  rw [Faithful]
  cases canvas.compile catalogue with
  | error findings => simp [heq]
  | ok p => simp [heq, hv]

/-- What a flow answers with for a canvas is right exactly if the plan of the canvas, if it has one,
is durable, and the canvas of the flow's current version, where it is taken for the same, has lost
no worker's address and agrees with it on what the comparison leaves out. -/
theorem versionFor_faithful_iff (h : Reached catalogue w) (hcat : catalogue.Neat)
    (hf : w.store.flow? flowId = some f) (hp : canvas.Parsed) :
    Faithful catalogue flowId canvas w ↔
      (∀ p, canvas.compile catalogue = .ok p → p.Durable) ∧
      ∀ current v, f.currentVersionId = some current → w.store.version? current = some v →
        v.canvas.sameAs canvas = true →
          Validation.checkWorkers v.canvas catalogue = [] ∧ v.canvas.Agrees canvas := by
  have hw := h.shelved
  cases hcur : f.currentVersionId with
  | none => simpa using hw.filed.faithful_of_new hf hp hcat (versionFor_first hf hcur)
  | some current =>
    obtain ⟨v, hv⟩ := hw.filed.current f (List.mem_of_find?_eq_some hf) current hcur
    have hmem := List.mem_of_find?_eq_some hv
    obtain ⟨c, hcompile, hcanvas, hplan⟩ := hw.filed.compiled v hmem
    have hparsed := hw.parsed v hmem
    have hnext : versionFor catalogue flowId canvas w = _ := versionFor_next hf hcur hv
    by_cases hs : v.canvas.sameAs canvas = true
    · rw [if_pos hs] at hnext
      rw [hcanvas] at hparsed hs
      rw [faithful_of_current hv hnext, hplan,
        Canvas.compiles_alike_iff hcompile hparsed hp hcat hs, and_comm, ← hcanvas]
      refine and_congr_right fun _ => ⟨?_, fun hall => hall current v rfl hv (hcanvas ▸ hs)⟩
      rintro hagrees _ _ ⟨⟩ hv' -
      obtain rfl := Option.some.inj (hv.symm.trans hv')
      exact hagrees
    · rw [if_neg hs] at hnext
      rw [hw.filed.faithful_of_new hf hp hcat hnext]
      refine ⟨fun hdurable => ⟨hdurable, ?_⟩, And.left⟩
      rintro _ _ ⟨⟩ hv' hs'
      obtain rfl := Option.some.inj (hv.symm.trans hv')
      exact absurd hs' hs

def askingDocument (input : Keyed Json) : Json :=
  drawing [("id", .str "W"), ("type", .str "Worker"),
    ("data", .obj [("config", .obj [("webhook_url", .str "http://host")]),
      ("inputs", .obj [("text", .obj (("required", .bool true) :: input))])])]

lemma asking_parsed : (asking (some (.json .null))).Parsed :=
  ⟨askingDocument [("default", .null)], by decide +kernel, by decide +kernel⟩

lemma asking_none_parsed : (asking none).Parsed :=
  ⟨askingDocument [], by decide +kernel, by decide +kernel⟩

lemma asking_invalid : ∃ findings, (asking none).compile [] = .error findings := by
  have hinputs : Validation.checkInputs (asking none) [] ≠ [] := by decide +kernel
  rw [Canvas.compile]
  split
  · rename_i hf
    exact absurd (Canvas.findings_eq_nil_iff.mp hf).1.2.2.1 hinputs
  · exact ⟨_, rfl⟩

lemma reached_asking : ∃ w f v, Reached [] w ∧ w.store.flow? "id-1" = some f ∧
    f.currentVersionId = some "id-2" ∧ w.store.version? "id-2" = some v ∧
    v.canvas = asking (some (.json .null)) := by
  -- A flow with a version for a required input whose default is null.
  let canvas := asking (some (.json .null))
  let w := (Saving.perform [] (.createFlow "flow" "workflow" none)).leaves .start
  have hw : Reached [] w := .called _ .start trivial
  have hf : w.store.flow? "id-1" = some (nextFlow .start "flow" "workflow" none) := by rfl
  let v := nextVersion w "id-1" canvas (.ofCanvas canvas []) (some firstMessage)
  have hid : v.id = "id-2" := by decide +kernel
  have hperform : (Saving.versionFor "id-1" canvas).perform [] w = .ok () (withVersion w v) := by
    change (_ <$> versionFor [] "id-1" canvas) w = _
    rw [Action.map_apply, versionFor_first hf rfl, Action.map_apply,
      hw.shelved.filed.createVersion_eq asking_compile hf]
  have hnext : Reached [] (withVersion w v) := by
    have hcalled := hw.called (.versionFor "id-1" canvas) asking_parsed
    rwa [Action.leaves, hperform] at hcalled
  refine ⟨_, Store.pointAt w.now v (nextFlow .start "flow" "workflow" none), v.written, hnext, rfl,
    congrArg some hid, hid ▸ hw.shelved.filed.version?_withVersion, ?_⟩
  exact Canvas.written_eq_self_iff.mpr (Canvas.written_eq_self_iff.mp (by decide +kernel))

theorem versionFor_faithful_again : ∃ w f, Reached [] w ∧ w.store.flow? "id-1" = some f ∧
    Faithful [] "id-1" (asking (some (.json .null))) w := by
  obtain ⟨w, f, v, hw, hf, hcur, hv, hcanvas⟩ := reached_asking
  have hnone : Catalogue.Neat [] := List.forall_mem_nil _
  refine ⟨w, f, hw, hf, (versionFor_faithful_iff hw hnone hf asking_parsed).mpr ⟨?_, ?_⟩⟩
  · intro p hp
    obtain rfl := Except.ok.inj (asking_compile.symm.trans hp)
    exact Plan.written_eq_self_iff.mp (by decide +kernel)
  · intro current v' hcur' hv' _
    obtain rfl := Option.some.inj (hcur.symm.trans hcur')
    obtain rfl := Option.some.inj (hv.symm.trans hv')
    rw [hcanvas]
    exact ⟨by decide +kernel, Canvas.agrees_self (by decide +kernel)⟩

theorem version_answers_invalid_canvas : (asking none).Parsed ∧
    ∃ w f, Reached [] w ∧ w.store.flow? "id-1" = some f ∧
    (∃ findings, (asking none).compile [] = .error findings) ∧
    versionFor [] "id-1" (asking none) w = .ok "id-2" w ∧
    ¬ Faithful [] "id-1" (asking none) w := by
  -- Without its default the text is missing, but the canvas is taken for the one with null.
  obtain ⟨w, f, v, hw, hf, hcur, hv, hcanvas⟩ := reached_asking
  have hsame : (asking (some (.json .null))).sameAs (asking none) = true := by decide +kernel
  have heq : versionFor [] "id-1" (asking none) w = _ := versionFor_next hf hcur hv
  rw [hcanvas, if_pos hsame] at heq
  obtain ⟨findings, hc⟩ := asking_invalid
  refine ⟨asking_none_parsed, w, f, hw, hf, ⟨findings, hc⟩, heq, ?_⟩
  rw [faithful_of_current hv heq]
  rintro ⟨p, hp, _⟩
  rw [hc] at hp
  cases hp

end Versions

end Workflow
