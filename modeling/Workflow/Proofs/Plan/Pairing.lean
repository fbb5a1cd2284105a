import Workflow.Proofs.Plan.Checks
import Workflow.Proofs.Plan.Cycles
import Workflow.Proofs.Plan.Exact

/-! Splitters and collectors: the findings name exactly the splitters from which no path leads to a
collector and the collectors that no edge enters. -/

namespace Workflow

lemma map_filter_eq_flatMap {α β : Type} (p : α → Prop) [DecidablePred p] (f : α → β) (l : List α) :
    (l.filter fun a => p a).map f = l.flatMap fun a => if p a then [f a] else [] := by
  induction l with
  | nil => rfl
  | cons a l ih => by_cases ha : p a <;> simp [ha, ih]

namespace Canvas

variable {c : Canvas} {n : CanvasNode} {a b : String}

def Connects (c : Canvas) : String → String → Prop :=
  Relation.TransGen fun a b => (a, b) ∈ c.links

/-- A splitter from which no path leads to a collector, or a collector that no edge enters. -/
def Unpaired (c : Canvas) (n : CanvasNode) : Prop :=
  (n.kind = .splitter ∧ ∀ d ∈ c.nodes, d.kind = .collector → ¬ c.Connects n.id d.id) ∨
    (n.kind = .collector ∧ ∀ e ∈ c.links, e.2 ≠ n.id)

lemma leads_iff_mem_links : c.Leads a b ↔ (a, b) ∈ c.links := by
  rw [← mem_onward, onward, leads_iff]
  constructor
  · rintro ⟨targets, hmem, hb⟩
    rw [Keyed.find?_of_mem (keys_adjacency ▸ nodup_executableIds) hmem]
    exact hb
  · intro hb
    cases hf : Keyed.find? c.adjacency a with
    | none => simp [hf] at hb
    | some targets => exact ⟨targets, Keyed.mem_of_find? hf, by simpa [hf] using hb⟩

lemma transGen_leads_iff : Relation.TransGen c.Leads a b ↔ c.Connects a b := by
  have hrel : c.Leads = fun a b => (a, b) ∈ c.links := by
    funext a b
    exact propext leads_iff_mem_links
  rw [hrel, Connects]

lemma predecessors_eq_nil_iff : c.digraph.predecessors b = [] ↔ ∀ e ∈ c.links, e.2 ≠ b := by
  have hmem : ∀ a, a ∈ c.digraph.predecessors b ↔ (a, b) ∈ c.links := by
    intro a
    rw [← leads_iff_mem_links, Leads]
    simp [Digraph.predecessors, Digraph.successors]
  simp only [List.eq_nil_iff_forall_not_mem, hmem]
  constructor
  · rintro h ⟨a, t⟩ he rfl
    exact h a he
  · intro h a ha
    exact h _ ha rfl

lemma Unpaired.isExecutable (h : c.Unpaired n) : n.isExecutable = true := by
  rcases h with ⟨hk, _⟩ | ⟨hk, _⟩ <;> simp [CanvasNode.isExecutable, hk, NodeKind.isPresentation]

section Distinct

variable (hn : (c.nodes.map (·.id)).Nodup)
include hn

lemma executableKinds_of_nodup :
    c.executableKinds = (c.nodes.filter CanvasNode.isExecutable).map fun n => (n.id, n.kind) := by
  apply Keyed.ofPairs_of_nodup
  have := hn.sublist (List.Sublist.map (·.id) (List.filter_sublist (p := CanvasNode.isExecutable)))
  simpa [Keyed.keys, List.map_map, Function.comp_def] using this

lemma keys_executableKinds : Keyed.keys c.executableKinds = c.executableIds := by
  rw [executableKinds_of_nodup hn, executableIds_of_nodup hn]
  simp [Keyed.keys, List.map_map, Function.comp_def]

lemma find?_executableKinds {id : String} :
    Keyed.find? c.executableKinds id = some .collector ↔
      ∃ d ∈ c.nodes, d.kind = .collector ∧ d.id = id := by
  have hkinds := executableKinds_of_nodup hn
  constructor
  · intro h
    have hmem := Keyed.mem_of_find? h
    rw [hkinds, List.mem_map] at hmem
    obtain ⟨d, hd, he⟩ := hmem
    obtain ⟨rfl, hk⟩ := Prod.mk.inj he
    exact ⟨d, (List.mem_filter.mp hd).1, hk, rfl⟩
  · rintro ⟨d, hd, hk, rfl⟩
    have hx : d.isExecutable = true := by
      simp [CanvasNode.isExecutable, hk, NodeKind.isPresentation]
    apply Keyed.find?_of_mem (by rw [keys_executableKinds hn]; exact nodup_executableIds)
    rw [hkinds, List.mem_map]
    exact ⟨d, List.mem_filter.mpr ⟨hd, hx⟩, by rw [hk]⟩

lemma joined_iff (hmem : n ∈ c.nodes) (hk : n.kind = .splitter) :
    c.Joined n.id ↔ ∃ d ∈ c.nodes, d.kind = .collector ∧ c.Connects n.id d.id := by
  simp only [Joined, transGen_leads_iff, find?_executableKinds hn]
  constructor
  · rintro ⟨_, _, hpath, d, hd, hkind, rfl⟩
    exact ⟨d, hd, hkind, hpath⟩
  · rintro ⟨d, hd, hkind, hpath⟩
    refine ⟨d.id, fun he => ?_, hpath, d, hd, hkind, rfl⟩
    have hsame : d = n := List.inj_on_of_nodup_map hn hd hmem he
    rw [hsame, hk] at hkind
    cases hkind

open Classical in
lemma checkPair_nodes (hmem : n ∈ c.nodes) :
    (Validation.checkPair c.digraph c.executableKinds n.id n.kind).map (·.node) =
      if c.Unpaired n then [some n.id] else [] := by
  cases hk : n.kind with
  | splitter =>
    have hu : c.Unpaired n ↔ ¬ c.Joined n.id := by
      rw [joined_iff hn hmem hk]
      simp [Unpaired, hk]
    by_cases hj : c.Joined n.id
    · simp [Validation.checkPair, reachesCollector_iff, hu, hj, hj.successors_ne_nil]
    · simp only [Validation.checkPair, reachesCollector_iff, hu, hj]
      split <;> rfl
  | collector =>
    have hu : c.Unpaired n ↔ c.digraph.predecessors n.id = [] := by
      rw [predecessors_eq_nil_iff]
      simp [Unpaired, hk]
    by_cases hp : c.digraph.predecessors n.id = []
    · simp [Validation.checkPair, hu, hp, Validation.unfedCollector, Validation.pairingFinding]
    · simp [Validation.checkPair, hu, hp]
  | _ => simp [Validation.checkPair, Unpaired, hk]

open Classical in
lemma checkPairing_nodes : (Validation.checkPairing c).map (·.node) =
    (c.nodes.filter fun n => c.Unpaired n).map fun n => some n.id := by
  have hskip : (c.nodes.filter CanvasNode.isExecutable).filter (fun n => c.Unpaired n) =
      c.nodes.filter fun n => c.Unpaired n := by
    rw [List.filter_filter]
    refine List.filter_congr fun n _ => ?_
    by_cases hu : c.Unpaired n
    · simp [hu, hu.isExecutable]
    · simp [hu]
  rw [Validation.checkPairing, executableKinds_of_nodup hn, ← hskip, map_filter_eq_flatMap,
    List.flatMap_map, List.map_flatMap]
  refine List.flatMap_congr fun n hmem => ?_
  rw [← executableKinds_of_nodup hn]
  exact checkPair_nodes hn (List.mem_filter.mp hmem).1

open Classical in
lemma count_checkPairing (hmem : n ∈ c.nodes) :
    (Validation.checkPairing c).countP (fun f => f.node = some n.id) =
      if c.Unpaired n then 1 else 0 := by
  have hnodup : ((Validation.checkPairing c).map (·.node)).Nodup := by
    rw [checkPairing_nodes hn]
    have hids := hn.sublist ((List.filter_sublist (p := fun n => c.Unpaired n)).map (·.id))
    simpa [List.map_map, Function.comp_def] using hids.map (Option.some_injective String)
  have hnamed : some n.id ∈ (Validation.checkPairing c).map (·.node) ↔ c.Unpaired n := by
    rw [checkPairing_nodes hn, List.mem_map]
    constructor
    · rintro ⟨m, hm, he⟩
      obtain ⟨hm, hu⟩ := List.mem_filter.mp hm
      rw [← List.inj_on_of_nodup_map hn hm hmem (Option.some.inj he)]
      exact of_decide_eq_true hu
    · intro hu
      exact ⟨n, List.mem_filter.mpr ⟨hmem, decide_eq_true hu⟩, rfl⟩
  calc (Validation.checkPairing c).countP (fun f => f.node = some n.id)
      = ((Validation.checkPairing c).map (·.node)).count (some n.id) := by
        rw [List.count, List.countP_map]
        exact List.countP_congr fun f _ => by simp
    _ = if c.Unpaired n then 1 else 0 := by
        rw [List.Nodup.count hnodup, if_congr hnamed rfl rfl]

end Distinct

lemma problem_of_mem_checkPairing {f : Finding} (h : f ∈ Validation.checkPairing c) :
    f.problem = .pairingMismatch := by
  obtain ⟨⟨id, kind⟩, _, hf⟩ := List.mem_flatMap.mp h
  have hcases : f = Validation.openSplitter id ∨ f = Validation.unpairedSplitter id ∨
      f = Validation.unfedCollector id := by
    cases kind <;> grind [Validation.checkPair]
  rcases hcases with rfl | rfl | rfl <;> rfl

lemma exists_collector_of_compile {catalogue : Catalogue} {p : Plan} {s : String} {n : PlanNode}
    (h : c.compile catalogue = .ok p) (hs : p.node? s = some n) (hk : n.kind = .splitter) :
    ∃ d m, p.node? d = some m ∧ m.kind = .collector ∧ p.Reaches s d := by
  obtain ⟨hf, rfl⟩ := compile_eq_ok h
  have hn := nodup_of_duplicateNodes (checks_of_findings hf).1
  have hpairing : Validation.checkPairing c = [] := by
    simp only [findings, List.append_eq_nil_iff] at hf
    tauto
  obtain ⟨m, hm, _, rfl, rfl⟩ := exists_of_node? hn hs
  have hpaired : ¬ c.Unpaired m := by
    classical
    have hnames := checkPairing_nodes hn
    rw [hpairing, List.map_nil, eq_comm, List.map_eq_nil_iff, List.filter_eq_nil_iff] at hnames
    simpa using hnames m hm
  obtain ⟨d, hd, hkind, hpath⟩ : ∃ d ∈ c.nodes, d.kind = .collector ∧ c.Connects m.id d.id := by
    by_contra hnone
    push Not at hnone
    exact hpaired (.inl ⟨hk, hnone⟩)
  have hids : (Plan.ofCanvas c catalogue).nodeIds.Nodup := (compile_wellFormed h).nodup
  refine ⟨d.id, .ofCanvas catalogue d, Keyed.find?_of_mem hids ?_, hkind, ?_⟩
  · have hx : d.isExecutable = true := by
      simp [CanvasNode.isExecutable, hkind, NodeKind.isPresentation]
    rw [Plan.ofCanvas, compiledNodes_of_nodup catalogue hn]
    exact List.mem_map_of_mem (List.mem_filter.mpr ⟨hd, hx⟩)
  · refine Relation.TransGen.mono (fun a b hab => ?_) _ _ hpath
    exact mem_children_ofCanvas.mpr (mem_onward.mpr hab)

open Classical in
theorem pairing_decided_by_reachability (c : Canvas) :
    ((c.nodes.map (·.id)).Nodup →
      (∀ f ∈ Validation.checkPairing c, f.problem = .pairingMismatch) ∧
      (Validation.checkPairing c).map (·.node) =
        (c.nodes.filter fun n => c.Unpaired n).map (fun n => some n.id) ∧
      ∀ n ∈ c.nodes, (Validation.checkPairing c).countP (fun f => f.node = some n.id) =
        if c.Unpaired n then 1 else 0) ∧
    ∀ catalogue p, c.compile catalogue = .ok p → ∀ s n, p.node? s = some n →
      n.kind = .splitter → ∃ d m, p.node? d = some m ∧ m.kind = .collector ∧ p.Reaches s d := by
  refine ⟨fun hn => ⟨fun f => problem_of_mem_checkPairing, checkPairing_nodes hn, ?_⟩,
    fun _ _ h _ _ => exists_collector_of_compile h⟩
  exact fun n => count_checkPairing hn

def beforeBox (edges : List CanvasEdge) : Canvas where
  nodes? := some [.bare "split" .splitter [],
    .bare "work" .worker [("webhook_url", .str "http://worker")], .bare "box" .frame [],
    .bare "join" .collector []]
  edges? := some edges

def throughBox : Canvas :=
  beforeBox [.bare "split" "work" [], .bare "work" "split" [], .bare "work" "box" [],
    .bare "box" "join" []]

def pastBox : Canvas :=
  beforeBox [.bare "split" "work" [], .bare "work" "box" [], .bare "work" "join" []]

theorem box_joins_nothing : (throughBox.nodes.map (·.id)).Nodup ∧
    (Validation.checkPairing throughBox).map (·.node) = [some "split", some "join"] ∧
    pastBox.compile [] = .ok (.ofCanvas pastBox []) ∧
    ∃ d m, (Plan.ofCanvas pastBox []).node? d = some m ∧ m.kind = .collector ∧
      (Plan.ofCanvas pastBox []).Reaches "split" d := by
  have hn : (throughBox.nodes.map (·.id)).Nodup := by decide
  have hjoin : ∀ e ∈ throughBox.links, e.2 ≠ "join" := by decide +kernel
  have hsplit : ¬ throughBox.Connects "split" "join" := by
    intro hpath
    obtain ⟨a, _, ha⟩ := Relation.TransGen.tail'_iff.mp hpath
    exact hjoin _ ha rfl
  have hc : pastBox.compile [] = .ok (.ofCanvas pastBox []) :=
    compile_of_checks (by decide +kernel) (by decide +kernel) (by decide +kernel)
  have hunpaired : ∀ n ∈ throughBox.nodes, throughBox.Unpaired n ↔
      n.kind = .splitter ∨ n.kind = .collector := by
    have hids : ∀ n ∈ throughBox.nodes, (n.kind = .splitter → n.id = "split") ∧
        (n.kind = .collector → n.id = "join") := by decide
    intro n hmem
    refine ⟨Or.imp And.left And.left, Or.imp (fun hk => ⟨hk, fun d hd hkind => ?_⟩) fun hk => ?_⟩
    · rw [(hids n hmem).1 hk, (hids d hd).2 hkind]
      exact hsplit
    · exact ⟨hk, (hids n hmem).2 hk ▸ hjoin⟩
  refine ⟨hn, ?_, hc, (pairing_decided_by_reachability pastBox).2 [] _ hc "split" _ rfl rfl⟩
  rw [((pairing_decided_by_reachability throughBox).1 hn).2.1,
    List.filter_congr (q := fun n => decide (n.kind = .splitter) || decide (n.kind = .collector))
      fun n hmem => by simp [hunpaired n hmem]]
  rfl

end Canvas

end Workflow
