import Workflow.Proofs.Document.Stored

/-! What documents keep of canvases and plans: all but numbers that are not finite, and defaults
that are no JSON. -/

namespace Workflow

lemma Floating.written_eq_self_iff {x : Floating} : x.written = x ↔ x ≠ .nan false := by
  cases x with
  | nan named => cases named <;> simp [written]
  | _ => simp [written]

def InputSchema.Durable (s : InputSchema) : Prop :=
  ∀ d ∈ s.default?, ∃ x : Json, d = .json x ∧ x.finite = true

lemma InputSchema.written_eq_self_iff {s : InputSchema} : s.written = s ↔ s.Durable := by
  have hvalue : ∀ d : DefaultValue, DefaultValue.json d.value.written = d ↔
      ∃ x : Json, d = .json x ∧ x.finite = true := by
    intro d
    cases d with
    | json x => simp [DefaultValue.value, Json.written_eq_self_iff]
    | foreign => simp
  rw [written, Durable, ← forall₂_congr fun d _ => hvalue d, ← option_map_eq_self]
  cases s
  simp

lemma inputs_written_eq_self_iff {m : Option (Option (Keyed InputSchema))} :
    m.map (Option.map (Keyed.mapValues InputSchema.written)) = m ↔
      ∀ inputs ∈ m.join, ∀ e ∈ inputs, e.2.Durable := by
  rcases m with _ | _ | m <;> simp [mapValues_eq_self, InputSchema.written_eq_self_iff]

lemma object_written_eq_self_iff {m : Option (Keyed Json)} :
    m.map Json.writtenMembers = m ↔ Json.finiteMembers (m.getD []) = true := by
  cases m <;> simp [Json.writtenMembers_eq_self_iff, Json.numbersMembers]

lemma number_written_eq_self_iff {x : Option (Option Floating)} :
    x.map (Option.map Floating.written) = x ↔ x.join ≠ some (.nan false) := by
  rcases x with _ | _ | x <;> simp [Floating.written_eq_self_iff]

structure NodeData.Durable (d : NodeData) : Prop where
  config : Json.finiteMembers d.config = true
  inputs : ∀ m ∈ d.inputs, ∀ e ∈ m, e.2.Durable
  extras : Json.finiteMembers d.extras = true

lemma NodeData.written_eq_self_iff {d : NodeData} : d.written = d ↔ d.Durable := by
  have h : d.written = d ↔ d.config?.map Json.writtenMembers = d.config? ∧
      d.inputs?.map (Option.map (Keyed.mapValues InputSchema.written)) = d.inputs? ∧
      Json.writtenMembers d.extras = d.extras := by
    cases d
    simp [written]
  rw [h, object_written_eq_self_iff, inputs_written_eq_self_iff, Json.writtenMembers_eq_self_iff]
  exact ⟨fun ⟨hc, hi, hx⟩ => ⟨hc, hi, hx⟩, fun ⟨hc, hi, hx⟩ => ⟨hc, hi, hx⟩⟩

structure Position.Durable (p : Position) : Prop where
  x : p.x? ≠ some (.nan false)
  y : p.y? ≠ some (.nan false)

lemma Position.written_eq_self_iff {p : Position} : p.written = p ↔ p.Durable := by
  have hnumber : ∀ x : Option Floating, x.map Floating.written = x ↔ x ≠ some (.nan false) := by
    intro x
    cases x <;> simp [Floating.written_eq_self_iff]
  have h : p.written = p ↔ p.x?.map Floating.written = p.x? ∧
      p.y?.map Floating.written = p.y? := by
    cases p
    simp [written]
  rw [h, hnumber, hnumber]
  exact ⟨fun ⟨hx, hy⟩ => ⟨hx, hy⟩, fun ⟨hx, hy⟩ => ⟨hx, hy⟩⟩

structure CanvasNode.Durable (n : CanvasNode) : Prop where
  position : ∀ p ∈ n.position?, p.Durable
  data : ∀ d ∈ n.data?, d.Durable
  style : ∀ m ∈ n.style?.join, Json.finiteMembers m = true
  width : n.width?.join ≠ some (.nan false)
  height : n.height?.join ≠ some (.nan false)
  extras : Json.finiteMembers n.extras = true

lemma CanvasNode.written_eq_self_iff {n : CanvasNode} : n.written = n ↔ n.Durable := by
  have hstyle : n.style?.map (Option.map Json.writtenMembers) = n.style? ↔
      ∀ m ∈ n.style?.join, Json.finiteMembers m = true := by
    rcases n.style? with _ | _ | m <;> simp [Json.writtenMembers_eq_self_iff]
  have h : n.written = n ↔ n.position?.map Position.written = n.position? ∧
      n.data?.map NodeData.written = n.data? ∧
      n.style?.map (Option.map Json.writtenMembers) = n.style? ∧
      n.width?.map (Option.map Floating.written) = n.width? ∧
      n.height?.map (Option.map Floating.written) = n.height? ∧
      Json.writtenMembers n.extras = n.extras := by
    cases n
    simp [written]
  rw [h, option_map_eq_self, option_map_eq_self, hstyle, number_written_eq_self_iff,
    number_written_eq_self_iff, Json.writtenMembers_eq_self_iff]
  simp only [Position.written_eq_self_iff, NodeData.written_eq_self_iff]
  exact ⟨fun ⟨hp, hd, hs, hw, hh, hx⟩ => ⟨hp, hd, hs, hw, hh, hx⟩,
    fun ⟨hp, hd, hs, hw, hh, hx⟩ => ⟨hp, hd, hs, hw, hh, hx⟩⟩

structure CanvasEdge.Durable (e : CanvasEdge) : Prop where
  data : ∀ d ∈ e.data?.join, Json.finiteMembers d.extras = true
  extras : Json.finiteMembers e.extras = true

lemma CanvasEdge.written_eq_self_iff {e : CanvasEdge} : e.written = e ↔ e.Durable := by
  have hd : ∀ d : EdgeData, d.written = d ↔ Json.finiteMembers d.extras = true := by
    intro d
    cases d
    simp [EdgeData.written, Json.writtenMembers_eq_self_iff]
  have hdata : e.data?.map (Option.map EdgeData.written) = e.data? ↔
      ∀ d ∈ e.data?.join, Json.finiteMembers d.extras = true := by
    rcases e.data? with _ | _ | d <;> simp [hd]
  have h : e.written = e ↔ e.data?.map (Option.map EdgeData.written) = e.data? ∧
      Json.writtenMembers e.extras = e.extras := by
    cases e
    simp [written]
  rw [h, hdata, Json.writtenMembers_eq_self_iff]
  exact ⟨fun ⟨hd, hx⟩ => ⟨hd, hx⟩, fun ⟨hd, hx⟩ => ⟨hd, hx⟩⟩

/-- Nothing in the canvas changes by being written: numbers are finite wherever any value may
stand, defaults are JSON, and no size or place is an unnamed value that is no number. -/
structure Canvas.Durable (c : Canvas) : Prop where
  nodes : ∀ n ∈ c.nodes, n.Durable
  edges : ∀ e ∈ c.edges, e.Durable

lemma Canvas.written_eq_self_iff {c : Canvas} : c.written = c ↔ c.Durable := by
  have hlist : ∀ {α : Type} {f : α → α} {l : Option (List α)},
      l.map (List.map f) = l ↔ ∀ a ∈ l.getD [], f a = a := by
    intro α f l
    cases l with
    | none => simp
    | some l => simp [list_map_eq_self]
  have h : c.written = c ↔ c.nodes?.map (List.map CanvasNode.written) = c.nodes? ∧
      c.edges?.map (List.map CanvasEdge.written) = c.edges? := by
    cases c
    simp [written]
  rw [h, hlist, hlist]
  simp only [CanvasNode.written_eq_self_iff, CanvasEdge.written_eq_self_iff]
  exact ⟨fun ⟨hn, he⟩ => ⟨hn, he⟩, fun ⟨hn, he⟩ => ⟨hn, he⟩⟩

lemma InputSchema.durable_written (s : InputSchema) : s.written.Durable := by
  intro d hd
  obtain ⟨d, -, rfl⟩ := Option.map_eq_some_iff.mp hd
  exact ⟨_, rfl, Json.finite_written _⟩

lemma NodeData.durable_written (d : NodeData) : d.written.Durable where
  config := by
    change Json.finiteMembers ((d.config?.map Json.writtenMembers).getD []) = true
    cases d.config? with
    | none => rfl
    | some m => exact Json.finiteMembers_written m
  inputs m hm e he := by
    obtain ⟨o, -, ho⟩ := Option.map_eq_some_iff.mp (Option.join_eq_some_iff.mp hm)
    obtain ⟨m, -, rfl⟩ := Option.map_eq_some_iff.mp ho
    obtain ⟨x, -, rfl⟩ := List.mem_map.mp he
    exact x.2.durable_written
  extras := Json.finiteMembers_written _

lemma Floating.written_ne (x : Floating) : x.written ≠ .nan false := by
  cases x <;> simp [written]

lemma number_written_ne (x : Option (Option Floating)) :
    (x.map (Option.map Floating.written)).join ≠ some (.nan false) := by
  rcases x with _ | _ | x <;> simp [Floating.written_ne]

lemma Position.durable_written (p : Position) : p.written.Durable where
  x := by cases h : p.x? <;> simp [written, h, Floating.written_ne]
  y := by cases h : p.y? <;> simp [written, h, Floating.written_ne]

lemma CanvasNode.durable_written (n : CanvasNode) : n.written.Durable where
  position p hp := by
    obtain ⟨p, -, rfl⟩ := Option.map_eq_some_iff.mp hp
    exact p.durable_written
  data d hd := by
    obtain ⟨d, -, rfl⟩ := Option.map_eq_some_iff.mp hd
    exact d.durable_written
  style m hm := by
    obtain ⟨o, -, ho⟩ := Option.map_eq_some_iff.mp (Option.join_eq_some_iff.mp hm)
    obtain ⟨m, -, rfl⟩ := Option.map_eq_some_iff.mp ho
    exact Json.finiteMembers_written m
  width := number_written_ne n.width?
  height := number_written_ne n.height?
  extras := Json.finiteMembers_written _

lemma CanvasEdge.durable_written (e : CanvasEdge) : e.written.Durable where
  data d hd := by
    obtain ⟨o, -, ho⟩ := Option.map_eq_some_iff.mp (Option.join_eq_some_iff.mp hd)
    obtain ⟨d, -, rfl⟩ := Option.map_eq_some_iff.mp ho
    exact Json.finiteMembers_written _
  extras := Json.finiteMembers_written _

lemma mem_getD_map {α : Type} {f : α → α} {l : Option (List α)} {b : α}
    (h : b ∈ (l.map (List.map f)).getD []) : ∃ a ∈ l.getD [], f a = b := by
  cases l with
  | none => cases h
  | some l => exact List.mem_map.mp h

lemma Canvas.durable_written (c : Canvas) : c.written.Durable where
  nodes n hn := by
    obtain ⟨n, -, rfl⟩ := mem_getD_map hn
    exact n.durable_written
  edges e he := by
    obtain ⟨e, -, rfl⟩ := mem_getD_map he
    exact e.durable_written

structure PlanNode.Durable (n : PlanNode) : Prop where
  config : Json.finiteMembers n.config = true
  inputs : ∀ e ∈ n.inputs, e.2.Durable

lemma PlanNode.written_eq_self_iff {n : PlanNode} : n.written = n ↔ n.Durable := by
  have h : n.written = n ↔ n.config?.map Json.writtenMembers = n.config? ∧
      n.inputs?.map (Option.map (Keyed.mapValues InputSchema.written)) = n.inputs? := by
    cases n
    simp [written]
  have hinputs : (∀ m ∈ n.inputs?.join, ∀ e ∈ m, e.2.Durable) ↔ ∀ e ∈ n.inputs, e.2.Durable := by
    rw [inputs]
    cases n.inputs?.join <;> simp
  rw [h, object_written_eq_self_iff, inputs_written_eq_self_iff, hinputs]
  exact ⟨fun ⟨hc, hi⟩ => ⟨hc, hi⟩, fun ⟨hc, hi⟩ => ⟨hc, hi⟩⟩

def Plan.Durable (p : Plan) : Prop := ∀ e ∈ p.nodes, e.2.Durable

lemma Plan.written_eq_self_iff {p : Plan} : p.written = p ↔ p.Durable := by
  have h : p.written = p ↔ Keyed.mapValues PlanNode.written p.nodes = p.nodes := by
    cases p
    simp [written]
  rw [h, mapValues_eq_self, Durable]
  simp only [PlanNode.written_eq_self_iff]

/-- A version that is stored and read back is as it was but for the numbers that are not finite, and
loses nothing exactly if it has none of these and no default that is no JSON. The canvas comes from
a document in which no object has two members of one name; no text is read as any other. -/
theorem version_restored_iff (catalogue : Catalogue) :
    (∀ (x : Json) (c : Canvas), x.distinct = true → Canvas.read x = .ok c →
      Canvas.read c.stored = .ok c.written ∧ (Canvas.read c.stored = .ok c ↔ c.Durable)) ∧
    ∀ (c : Canvas) (p : Plan), c.compile catalogue = .ok p →
      Plan.read p.stored = .ok p.written ∧ (Plan.read p.stored = .ok p ↔ p.Durable) ∧
      ∀ id, p.written.children id = p.children id ∧ p.written.parents id = p.parents id := by
  constructor
  · intro x c hx hread
    obtain ⟨hn, he⟩ := Canvas.kept_of_read hx hread
    have hrestored : Canvas.read c.stored = .ok c.written := Canvas.restored hn he
    refine ⟨hrestored, ?_⟩
    rw [hrestored, Checked.ok.injEq, Canvas.written_eq_self_iff]
  · intro c p _
    have hrestored : Plan.read p.stored = .ok p.written := p.restored
    refine ⟨hrestored, ?_, fun _ => ⟨rfl, rfl⟩⟩
    rw [hrestored, Checked.ok.injEq, Plan.written_eq_self_iff]

def annotatedDocument : Json :=
  .obj [("nodes", .arr [.obj
    [("parent_node", .str "box"), ("id", .str "work"), ("type", .str "Worker"),
      ("parentNode", .null), ("width", .int 3), ("z", .null),
      ("data", .obj [("color", .str "red"),
        ("config", .obj [("webhook_url", .str "http://worker")]),
        ("inputs", .obj [("prompt", .obj [("default", .null)])])])]])]

def annotatedCanvas : Canvas where
  nodes? := some
    [{ id := "work"
       kind := .worker
       position? := none
       data? := some
         { NodeData.empty with
           config? := some [("webhook_url", .str "http://worker")]
           inputs? := some (some [("prompt", ⟨none, none, none, some (.json .null)⟩)])
           extras := [("color", .str "red")] }
       style? := none
       width? := some ((Binary64.ofInt 3).map .finite)
       height? := none
       parent? := some none
       extras := [("parent_node", .str "box"), ("z", .null)] }]
  edges? := none

theorem annotatedCanvas_restored : annotatedDocument.distinct = true ∧
    Canvas.read annotatedDocument = .ok annotatedCanvas ∧
    Canvas.read annotatedCanvas.stored = .ok annotatedCanvas ∧
    annotatedCanvas.compile [] = .ok (.ofCanvas annotatedCanvas []) ∧
    Plan.read (Plan.ofCanvas annotatedCanvas []).stored = .ok (.ofCanvas annotatedCanvas []) := by
  have hx : annotatedDocument.distinct = true := by decide +kernel
  have hread : Canvas.read annotatedDocument = .ok annotatedCanvas := by decide +kernel
  have hc : annotatedCanvas.compile [] = .ok (.ofCanvas annotatedCanvas []) :=
    Canvas.compile_of_checks (by decide +kernel) (by decide +kernel) (by decide +kernel)
  have hcanvas : annotatedCanvas.Durable :=
    Canvas.written_eq_self_iff.mp (by decide +kernel)
  have hplan : (Plan.ofCanvas annotatedCanvas []).Durable :=
    Plan.written_eq_self_iff.mp (by decide +kernel)
  obtain ⟨hcanvases, hplans⟩ := version_restored_iff []
  exact ⟨hx, hread, (hcanvases _ _ hx hread).2.mpr hcanvas, hc, (hplans _ _ hc).2.1.mpr hplan⟩

def boundlessDocument : Json :=
  .obj [("nodes", .arr [.obj
    [("id", .str "work"), ("type", .str "Worker"),
      ("data", .obj [("speed", .float (.infinite false)),
        ("config", .obj [("webhook_url", .str "http://worker"),
          ("limit", .float (.infinite false))])])]])]

theorem boundless_not_restored : ∃ c d p q, boundlessDocument.distinct = true ∧
    Canvas.read boundlessDocument = .ok c ∧ Canvas.read c.stored = .ok d ∧ d ≠ c ∧
    c.compile [] = .ok p ∧ Plan.read p.stored = .ok q ∧ q ≠ p := by
  -- What is read back has null instead, in the canvas and in the plan.
  let c : Canvas := ⟨some [{ CanvasNode.bare "work" .worker
    [("webhook_url", .str "http://worker"), ("limit", .float (.infinite false))] with
      data? := some { NodeData.empty with
        config? := some
          [("webhook_url", .str "http://worker"), ("limit", .float (.infinite false))]
        extras := [("speed", .float (.infinite false))] } }], none⟩
  have hc : c.compile [] = .ok (.ofCanvas c []) :=
    Canvas.compile_of_checks (by decide +kernel) (by decide +kernel) (by decide +kernel)
  exact ⟨c, c.written, .ofCanvas c [], (Plan.ofCanvas c []).written, by decide +kernel,
    by decide +kernel, by decide +kernel, by decide +kernel, hc, by decide +kernel,
    by decide +kernel⟩

end Workflow
