import Workflow.Proofs.Engine.Start
import Workflow.Proofs.Plan.EdgeMappings

/-! In which order a node's sources are consulted: that of the nodes, which is that of the edges only
where the two agree. -/

namespace Workflow

lemma filter_eq_of_nodup {l : List String} (h : l.Nodup) (a : String) :
    (l.filter fun b => b = a) = if a ∈ l then [a] else [] := by
  change l.filter (· == a) = _
  rw [List.filter_beq]
  split
  · rename_i ha
    rw [List.count_eq_one_of_mem h ha]
    rfl
  · rename_i ha
    rw [List.count_eq_zero_of_not_mem ha]
    rfl

lemma eq_filter_iff_sublist {l ids : List String} {q : String → Bool} (hids : ids.Nodup)
    (hq : ∀ a ∈ ids, q a = true ↔ a ∈ l) : ids.filter q = l ↔ l.Sublist ids := by
  refine ⟨fun h => h ▸ List.filter_sublist, fun h => ?_⟩
  have hl : l.filter q = l := List.filter_eq_self.mpr fun a ha => (hq a (h.subset ha)).mpr ha
  refine ((hl ▸ h.filter q : l.Sublist (ids.filter q)).eq_of_length_le ?_).symm
  refine ((hids.filter q).subperm fun a ha => ?_).length_le
  obtain ⟨ha, hqa⟩ := List.mem_filter.mp ha
  exact (hq a ha).mp hqa

namespace Engine

def offered (source : String) : Json → Keyed Json
  | .obj members => Keyed.ofPairs members
  | other => [(source, other)]

def Offers (p : Plan) (r : Run) (n source : String) (output : Json) : Prop :=
  r.hasInstances source = false ∧
    (∃ s, r.state? source = some s ∧ s.status = .completed ∧ s.output = output) ∧
    p.mappingFor source n = []

def completedOf (r : Run) (source : String) : List Json :=
  (branchOutputs ((r.keysOf source).map fun k => (k, r.state? k))).map Prod.snd

instance {p : Plan} {r : Run} {n source : String} {output : Json} :
    Decidable (Offers p r n source output) :=
  decidable_of_iff (r.hasInstances source = false ∧
      (r.state? source).any (fun s => s.status = .completed && s.output = output) = true ∧
      p.mappingFor source n = []) (by simp [Offers, Option.any_eq_true])

variable {p : Plan} {r : Run} {n : String} {l : List String} {output : String → Json}

lemma contribution_offered {s : String} {x : Json} (h : Offers p r n s x) :
    ∃ given, contribution r s (p.mappingFor s n) = .ok given ∧ Keyed.ofPairs given = offered s x := by
  obtain ⟨hi, ⟨st, hst, hcompleted, rfl⟩, hm⟩ := h
  simp only [contribution, hi, hst, hm, hcompleted, Bool.false_eq_true, ↓reduceIte, ne_eq,
    not_true_eq_false, List.isEmpty_nil, Bool.not_true]
  cases st.output with
  | obj members => exact ⟨members, rfl, rfl⟩
  | _ => exact ⟨_, rfl, rfl⟩

lemma mergeFrom_offered (h : ∀ s ∈ l, Offers p r n s (output s)) (merged : Keyed Json) :
    ∃ m, mergeFrom p r n merged l = .ok m ∧ ∀ k, Keyed.find? m k =
      (l.reverse.findSome? fun s => Keyed.find? (offered s (output s)) k).or
        (Keyed.find? merged k) := by
  induction l generalizing merged with
  | nil => exact ⟨merged, rfl, fun k => rfl⟩
  | cons s rest ih =>
    obtain ⟨given, hgiven, hoffer⟩ := contribution_offered (h s (by simp))
    obtain ⟨m, hm, hfind⟩ := ih (fun t ht => h t (by simp [ht])) (Keyed.merge merged given)
    refine ⟨m, by simpa [mergeFrom, hgiven, bind, Except.bind] using hm, fun k => ?_⟩
    rw [hfind, Keyed.find?_merge, hoffer, List.reverse_cons, List.findSome?_append, Option.or_assoc]
    simp

lemma branchOutputs_branchesOf (sources : List String) :
    (branchOutputs (branchesOf r sources)).map Prod.snd = sources.flatMap (completedOf r) := by
  simp only [branchOutputs, branchesOf, List.filterMap_flatMap, List.map_flatMap]
  rfl

end Engine

namespace Canvas

variable {c : Canvas} {catalogue : Catalogue} {p : Plan}

def sourcesInto (c : Canvas) (n : String) : List String :=
  ((c.executableEdges.filter fun e => e.target = n).map (·.source)).eraseDups

lemma mem_sourcesInto {s n : String} :
    s ∈ c.sourcesInto n ↔ ∃ e ∈ c.executableEdges, e.source = s ∧ e.target = n := by
  simp [sourcesInto, List.mem_eraseDups, and_comm, and_assoc]

lemma parents_ofCanvas (n : String) : (Plan.ofCanvas c catalogue).parents n =
    c.executableIds.filter fun s => (targetsFrom c.executableEdges s).contains n := by
  have hgroup : ∀ s, (((targetsFrom c.executableEdges s).eraseDups.map fun t => (s, t)).filter
      fun e => e.2 = n).map Prod.fst =
        if (targetsFrom c.executableEdges s).contains n then [s] else [] := by
    intro s
    rw [List.filter_map, List.map_map]
    change List.map (fun _ => s) (((targetsFrom c.executableEdges s).eraseDups.filter
      fun t => t = n)) = _
    rw [filter_eq_of_nodup (nodup_eraseDups _)]
    simp only [List.mem_eraseDups, List.contains_iff_mem]
    split <;> rfl
  simp only [Plan.parents, Plan.edges, Plan.ofCanvas, adjacency, Keyed.mapValues, List.map_map,
    List.flatMap_map, List.filter_flatMap, List.map_flatMap, Function.comp_def]
  simp only [hgroup]
  induction c.executableIds with
  | nil => rfl
  | cons s ids ih =>
    rw [List.flatMap_cons, ih, List.filter_cons]
    split <;> rfl

end Canvas

namespace Plan

structure InEdgeOrder (c : Canvas) (p : Plan) : Prop where
  parents_eq : ∀ n ∈ p.nodeIds, p.parents n = c.sourcesInto n
  last_counts : ∀ r, ∀ n ∈ p.nodeIds, ∀ output : String → Json,
    (∀ s ∈ c.sourcesInto n, Engine.Offers p r n s (output s)) →
    ∃ m, Engine.mergedInput p r n = .ok m ∧ ∀ k, Keyed.find? m k =
      (c.sourcesInto n).reverse.findSome? fun s => Keyed.find? (Engine.offered s (output s)) k
  collected : ∀ r, r.Sound p → ∀ n ∈ p.nodeIds,
    ∃ bs, Engine.branches r (p.parents n) = .ok bs ∧
      Engine.collect .array (Engine.branchOutputs bs) =
        .arr ((c.sourcesInto n).flatMap (Engine.completedOf r))

end Plan

namespace Canvas

variable {c : Canvas} {catalogue : Catalogue} {p : Plan}

theorem sources_in_edge_order_iff (h : c.compile catalogue = .ok p) :
    p.InEdgeOrder c ↔ ∀ n ∈ p.nodeIds, (c.sourcesInto n).Sublist p.nodeIds := by
  obtain ⟨hf, rfl⟩ := compile_eq_ok h
  have hids : (Plan.ofCanvas c catalogue).nodeIds = c.executableIds :=
    nodeIds_ofCanvas (nodup_of_duplicateNodes (checks_of_findings hf).1)
  rw [hids]
  have hparents : ∀ n, (Plan.ofCanvas c catalogue).parents n = c.sourcesInto n ↔
      (c.sourcesInto n).Sublist c.executableIds := by
    intro n
    rw [parents_ofCanvas]
    refine eq_filter_iff_sublist nodup_executableIds fun s _ => ?_
    rw [List.contains_iff_mem, mem_targetsFrom, mem_sourcesInto]
  constructor
  · intro hin n hn
    exact (hparents n).mp (hin.parents_eq n (hids ▸ hn))
  · intro horder
    have heq : ∀ n ∈ (Plan.ofCanvas c catalogue).nodeIds,
        (Plan.ofCanvas c catalogue).parents n = c.sourcesInto n :=
      fun n hn => (hparents n).mpr (horder n (hids ▸ hn))
    refine ⟨heq, fun r n hn output hoffers => ?_, fun r hso n hn => ?_⟩
    · obtain ⟨m, hm, hfind⟩ := Engine.mergeFrom_offered hoffers []
      refine ⟨m, by rw [Engine.mergedInput, heq n hn, hm], fun k => ?_⟩
      rw [hfind, Keyed.find?_nil, Option.or_none]
    · refine ⟨_, Engine.branches_eq hso _, ?_⟩
      rw [heq n hn, Engine.collect, Engine.branchOutputs_branchesOf]

def joined (edges : List CanvasEdge) : Canvas where
  nodes? := some [.bare "a" .worker [("webhook_url", .str "http://worker")],
    .bare "b" .worker [("webhook_url", .str "http://worker")],
    .bare "c" .worker [("webhook_url", .str "http://worker")]]
  edges? := some edges

def inNodeOrder : Canvas := joined [.bare "a" "c" [], .bare "b" "c" []]

def crossed : Canvas := joined [.bare "b" "c" [], .bare "a" "c" []]

def answerOf (s : String) : Json := .obj [("x", .str s)]

def answered : Run where
  id := "run"
  flowId := "flow"
  versionId := "version"
  entityId := none
  trigger := .byHand
  states := [("a", ⟨.completed, answerOf "a", none, none, none⟩),
    ("b", ⟨.completed, answerOf "b", none, none, none⟩), ("c", .pending .null)]
  instances := []
  revision := 4
  createdAt := .epoch2024
  updatedAt := .epoch2024

theorem inNodeOrder_consulted : inNodeOrder.compile [] = .ok (.ofCanvas inNodeOrder []) ∧
    (Plan.ofCanvas inNodeOrder []).parents "c" = ["a", "b"] ∧
    ∃ m, Engine.mergedInput (.ofCanvas inNodeOrder []) answered "c" = .ok m ∧
      Keyed.find? m "x" = some (.str "b") := by
  have hc : inNodeOrder.compile [] = .ok (.ofCanvas inNodeOrder []) :=
    compile_of_checks (by decide +kernel) (by decide +kernel) (by decide +kernel)
  have hin := (sources_in_edge_order_iff hc).mpr (by decide +kernel)
  obtain ⟨m, hm, hfind⟩ := hin.last_counts answered "c" (by decide +kernel) answerOf
    (by decide +kernel)
  refine ⟨hc, (hin.parents_eq "c" (by decide +kernel)).trans (by decide +kernel), m, hm, ?_⟩
  rw [hfind]
  decide +kernel

theorem crossed_overruled : crossed.compile [] = .ok (.ofCanvas crossed []) ∧
    "c" ∈ (Plan.ofCanvas crossed []).nodeIds ∧ crossed.sourcesInto "c" = ["b", "a"] ∧
    (Plan.ofCanvas crossed []).parents "c" = ["a", "b"] ∧
    (∀ s ∈ crossed.sourcesInto "c",
      Engine.Offers (.ofCanvas crossed []) answered "c" s (answerOf s)) ∧
    Engine.mergedInput (.ofCanvas crossed []) answered "c" = .ok [("x", .str "b")] :=
  ⟨compile_of_checks (by decide +kernel) (by decide +kernel) (by decide +kernel),
    by decide +kernel, by decide +kernel, by decide +kernel, by decide +kernel, by rfl⟩

end Canvas

end Workflow
