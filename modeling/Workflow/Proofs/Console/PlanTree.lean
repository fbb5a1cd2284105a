import Workflow.Console.PlanView
import Workflow.Proofs.Engine.Ready
import Workflow.Proofs.Plan.Paths

/-! A plan as a tree: below each entry node, every node that is reached stands with its label once,
and below it all its children. -/

namespace Workflow

/-- Siblings in the order of a walk, each with what stands below it. A node that the walk met before
has nothing below it. -/
inductive Outline where
  | done
  | again (id : String) (rest : Outline)
  | first (id : String) (below rest : Outline)
deriving Inhabited

namespace Outline

inductive Line where
  | again (id : String)
  | first (id : String)
deriving DecidableEq

namespace Line

def node : Line → String
  | again id | first id => id

def first? : Line → Option String
  | again _ => none
  | first id => some id

@[simp] lemma first?_eq_some {l : Line} {a : String} : l.first? = some a ↔ l = first a := by
  cases l <;> simp [first?]

end Line

def firsts (lines : List Line) : List String := lines.filterMap Line.first?

def Told (above : List String) : List Line → Prop
  | [] => True
  | .again id :: lines => id ∈ above ∧ Told above lines
  | .first id :: lines => id ∉ above ∧ Told (id :: above) lines

def ids : Outline → List String
  | done => []
  | again id rest | first id _ rest => id :: rest.ids

def lines : Outline → List Line
  | done => []
  | again id rest => .again id :: rest.lines
  | first id below rest => .first id :: (below.lines ++ rest.lines)

def trees (label : String → String) : Outline → List Tree
  | done => []
  | again id rest => Plan.shownBefore id :: rest.trees label
  | first id below rest => .node (label id) (below.trees label) :: rest.trees label

def Unfolds (p : Plan) : Outline → Prop
  | done => True
  | again _ rest => rest.Unfolds p
  | first id below rest => below.ids = p.children id ∧ below.Unfolds p ∧ rest.Unfolds p

variable {o : Outline} {l m : List Line} {p : Plan} {above : List String} {a b : String}

@[simp] lemma firsts_again : firsts (.again a :: l) = firsts l := rfl

@[simp] lemma firsts_first : firsts (.first a :: l) = a :: firsts l := rfl

@[simp] lemma firsts_append : firsts (l ++ m) = firsts l ++ firsts m := List.filterMap_append

@[simp] lemma mem_firsts : a ∈ firsts l ↔ .first a ∈ l := by
  simp [firsts]

lemma told_append :
    Told above (l ++ m) ↔ Told above l ∧ Told ((firsts l).reverse ++ above) m := by
  induction l generalizing above with
  | nil => simp [Told, firsts]
  | cons line l ih => cases line <;> simp [Told, ih, and_assoc]

lemma Told.first_above (h : Told above (l ++ .again a :: m)) : a ∈ above ∨ .first a ∈ l := by
  have ha : a ∈ (firsts l).reverse ++ above := (told_append.mp h).2.1
  simpa [or_comm] using ha

lemma Told.nodup (h : Told above l) : (firsts l).Nodup ∧ ∀ a ∈ firsts l, a ∉ above := by
  induction l generalizing above with
  | nil => simp [firsts]
  | cons line l ih =>
    cases line with
    | again id => exact ih h.2
    | first id =>
      obtain ⟨hn, hnew⟩ := ih h.2
      refine ⟨List.nodup_cons.mpr ⟨fun hid => hnew id hid List.mem_cons_self, hn⟩, ?_⟩
      rintro a (_ | ⟨_, ha⟩)
      · exact h.1
      · exact fun hmem => hnew a ha (List.mem_cons_of_mem _ hmem)

section Parts

variable {id : String} {below rest : Outline}

lemma below_subset : below.lines ⊆ (first id below rest).lines :=
  fun _ h => List.mem_cons_of_mem _ (List.mem_append_left _ h)

lemma rest_subset : rest.lines ⊆ (first id below rest).lines :=
  fun _ h => List.mem_cons_of_mem _ (List.mem_append_right _ h)

lemma rest_subset_again : rest.lines ⊆ (again id rest).lines :=
  fun _ h => List.mem_cons_of_mem _ h

end Parts

lemma mem_lines_of_mem_ids (h : a ∈ o.ids) : .first a ∈ o.lines ∨ .again a ∈ o.lines := by
  induction o with
  | done => cases h
  | again id rest ih =>
    rcases List.mem_cons.mp h with rfl | h
    · exact .inr List.mem_cons_self
    · exact (ih h).imp (rest_subset_again ·) (rest_subset_again ·)
  | first id below rest _ ih =>
    rcases List.mem_cons.mp h with rfl | h
    · exact .inl List.mem_cons_self
    · exact (ih h).imp (rest_subset ·) (rest_subset ·)

lemma Unfolds.child_mem (h : o.Unfolds p) (ha : .first a ∈ o.lines) (hb : p.Leads a b) :
    .first b ∈ o.lines ∨ .again b ∈ o.lines := by
  induction o with
  | done => cases ha
  | again id rest ih =>
    have ha : .first a ∈ rest.lines := by simpa [lines] using ha
    exact (ih h ha).imp (rest_subset_again ·) (rest_subset_again ·)
  | first id below rest ihb ihr =>
    obtain ⟨hids, hbelow, hrest⟩ := h
    rcases List.mem_cons.mp ha with he | ha
    · obtain rfl := Line.first.inj he
      rw [Plan.Leads, ← hids] at hb
      exact (mem_lines_of_mem_ids hb).imp (below_subset ·) (below_subset ·)
    · rcases List.mem_append.mp ha with ha | ha
      · exact (ihb hbelow ha).imp (below_subset ·) (below_subset ·)
      · exact (ihr hrest ha).imp (rest_subset ·) (rest_subset ·)

lemma Unfolds.reached {line : Line} (h : o.Unfolds p) (hl : line ∈ o.lines) :
    ∃ a ∈ o.ids, Relation.ReflTransGen p.Leads a line.node := by
  induction o with
  | done => cases hl
  | again id rest ih =>
    rcases List.mem_cons.mp hl with rfl | hl
    · exact ⟨id, List.mem_cons_self, .refl⟩
    · obtain ⟨a, ha, hpath⟩ := ih h hl
      exact ⟨a, List.mem_cons_of_mem _ ha, hpath⟩
  | first id below rest ihb ihr =>
    obtain ⟨hids, hbelow, hrest⟩ := h
    rcases List.mem_cons.mp hl with rfl | hl
    · exact ⟨id, List.mem_cons_self, .refl⟩
    · rcases List.mem_append.mp hl with hl | hl
      · obtain ⟨a, ha, hpath⟩ := ihb hbelow hl
        rw [hids] at ha
        exact ⟨id, List.mem_cons_self, .head ha hpath⟩
      · obtain ⟨a, ha, hpath⟩ := ihr hrest hl
        exact ⟨a, List.mem_cons_of_mem _ ha, hpath⟩

/-- The walk from an entry node: each edge of a node is a line below the node's first line. -/
structure Shows (o : Outline) (p : Plan) (entry : String) : Prop where
  ids_eq : o.ids = [entry]
  unfolds : o.Unfolds p
  once : (firsts o.lines).Nodup
  first_iff : ∀ id, .first id ∈ o.lines ↔ Relation.ReflTransGen p.Leads entry id
  shown_above : ∀ above id below, o.lines = above ++ .again id :: below → .first id ∈ above

lemma Unfolds.shows (h : o.Unfolds p) (hids : o.ids = [a]) (ht : Told [] o.lines) :
    o.Shows p a := by
  have hagain : ∀ id, .again id ∈ o.lines → .first id ∈ o.lines := by
    intro id hid
    obtain ⟨l, m, hl⟩ := List.append_of_mem hid
    rw [hl] at ht ⊢
    exact List.mem_append_left _ (ht.first_above.resolve_left List.not_mem_nil)
  refine ⟨hids, h, ht.nodup.1, fun id => ⟨fun hid => ?_, fun hpath => ?_⟩, ?_⟩
  · obtain ⟨b, hb, hpath⟩ := h.reached hid
    rw [hids, List.mem_singleton] at hb
    exact hb ▸ hpath
  · induction hpath with
    | refl =>
      have ha := mem_lines_of_mem_ids (o := o) (a := a) (by simp [hids])
      exact ha.elim (fun h => h) (hagain a)
    | tail _ hb ih => exact (h.child_mem ih hb).elim (fun h => h) (hagain _)
  · intro l id m hl
    rw [hl] at ht
    exact ht.first_above.resolve_left List.not_mem_nil

end Outline

namespace Plan

variable {p : Plan} {statuses : Keyed String} {label : String → String} {shown : List String}
  {id : String}

def unshown (p : Plan) (shown : List String) : Nat := (p.nodeIds.filter (· ∉ shown)).length

lemma unshown_cons_lt (hid : id ∈ p.nodeIds) (hnew : id ∉ shown) :
    p.unshown (id :: shown) < p.unshown shown := by
  have hfilter : p.nodeIds.filter (· ∉ id :: shown) =
      (p.nodeIds.filter (· ∉ shown)).filter (· ≠ id) := by
    rw [List.filter_filter]
    refine List.filter_congr fun a _ => ?_
    simp
  rw [unshown, unshown, hfilter, List.length_filter_lt_length_iff_exists]
  exact ⟨id, by simp [hid, hnew], by simp⟩

lemma unshown_append_le (more : List String) : p.unshown (more ++ shown) ≤ p.unshown shown := by
  refine (List.monotone_filter_right p.nodeIds fun a ha => ?_).length_le
  have : a ∉ more ∧ a ∉ shown := by simpa using ha
  simpa using this.2

lemma exists_label (hid : id ∈ p.nodeIds) : ∃ text, p.label statuses id = .ok text := by
  obtain ⟨n, hn⟩ := mem_nodeIds_iff.mp hid
  exact ⟨n.label id ((Keyed.find? statuses id).getD ""), by rw [label, hn]⟩

section Steps

variable {depth : Nat} {rest shown' shown'' : List String} {below others : List Tree}

lemma treesFrom_again (hshown : id ∈ shown)
    (hrest : p.treesFrom statuses (depth + 1) shown rest = .ok (others, shown')) :
    p.treesFrom statuses (depth + 1) shown (id :: rest) =
      .ok (shownBefore id :: others, shown') := by
  rw [treesFrom]
  simp [hshown, hrest]

lemma treesFrom_first {text : String} (hnew : id ∉ shown) (hl : p.label statuses id = .ok text)
    (hb : p.treesFrom statuses depth (id :: shown) (p.children id) = .ok (below, shown'))
    (hrest : p.treesFrom statuses (depth + 1) shown' rest = .ok (others, shown'')) :
    p.treesFrom statuses (depth + 1) shown (id :: rest) =
      .ok (.node text below :: others, shown'') := by
  rw [treesFrom]
  simp only [List.contains_eq_mem, hnew, decide_false, Bool.false_eq_true, if_false, hl, hb, hrest,
    bind, Except.bind, pure, Except.pure]

end Steps

section

variable (hlabel : ∀ id ∈ p.nodeIds, p.label statuses id = .ok (label id))
  (hchild : ∀ s c, c ∈ p.children s → c ∈ p.nodeIds)
include hlabel hchild

lemma exists_outline {depth : Nat} {ids : List String} (hids : ∀ id ∈ ids, id ∈ p.nodeIds)
    (hdepth : p.unshown shown < depth) :
    ∃ o : Outline, p.treesFrom statuses depth shown ids =
        .ok (o.trees label, (Outline.firsts o.lines).reverse ++ shown) ∧
      o.ids = ids ∧ o.Unfolds p ∧ Outline.Told shown o.lines := by
  -- The depth suffices where it exceeds the number of nodes still to be shown, as a node goes one
  -- deeper only when it is shown for the first time.
  induction depth generalizing shown ids with
  | zero => omega
  | succ depth ihd =>
    induction ids generalizing shown with
    | nil => exact ⟨.done, by simp [treesFrom, Outline.trees, Outline.lines, Outline.firsts], rfl,
        trivial, trivial⟩
    | cons id rest ih =>
      obtain ⟨hid, hrest⟩ := List.forall_mem_cons.mp hids
      by_cases hshown : id ∈ shown
      · obtain ⟨o, ho, hoids, hunfolds, htold⟩ := ih hrest hdepth
        refine ⟨.again id o, ?_, by simp [Outline.ids, hoids], hunfolds, hshown, htold⟩
        simpa [Outline.trees, Outline.lines] using treesFrom_again hshown ho
      · have hless : p.unshown (id :: shown) < depth :=
          Nat.lt_of_lt_of_le (unshown_cons_lt hid hshown) (Nat.le_of_lt_succ hdepth)
        obtain ⟨below, hb, hbids, hbunfolds, hbtold⟩ := ihd (hchild id) hless
        have hleft : p.unshown ((Outline.firsts below.lines).reverse ++ id :: shown) < depth + 1 :=
          Nat.lt_succ_of_lt (Nat.lt_of_le_of_lt (unshown_append_le _) hless)
        obtain ⟨o, ho, hoids, hunfolds, htold⟩ := ih hrest hleft
        refine ⟨.first id below o, ?_, by simp [Outline.ids, hoids], ⟨hbids, hbunfolds, hunfolds⟩,
          hshown, Outline.told_append.mpr ⟨hbtold, htold⟩⟩
        simpa [Outline.trees, Outline.lines] using treesFrom_first hshown (hlabel id hid) hb ho

lemma exists_entry_outline {entry : String} (hentry : entry ∈ p.nodeIds) :
    ∃ o : Outline, p.entryTrees statuses entry = .ok (o.trees label) ∧ o.Shows p entry := by
  have hdepth : p.unshown [] < p.nodes.length + 1 := by simp [unshown, nodeIds, Keyed.keys]
  have hids : ∀ id ∈ [entry], id ∈ p.nodeIds := by simpa using hentry
  obtain ⟨o, ho, hids, hunfolds, htold⟩ := exists_outline hlabel hchild hids hdepth
  refine ⟨o, ?_, hunfolds.shows hids htold⟩
  rw [entryTrees, ho]
  rfl

end

theorem tree_shows_every_edge (p : Plan) (statuses : Keyed String)
    (hentry : ∀ id ∈ p.entryNodes, id ∈ p.nodeIds)
    (htarget : ∀ e ∈ p.adjacency, ∀ t ∈ e.2, t ∈ p.nodeIds) :
    ∃ (label : String → String) (outline : String → Outline),
      (∀ id ∈ p.nodeIds, p.label statuses id = .ok (label id)) ∧
      p.tree statuses = .ok (.node "[bold]Execution graph[/]"
        (p.entryNodes.flatMap fun entry => (outline entry).trees label)) ∧
      ∀ entry ∈ p.entryNodes, (outline entry).Shows p entry := by
  have hchild : ∀ s c, c ∈ p.children s → c ∈ p.nodeIds := by
    intro s c hc
    cases hf : Keyed.find? p.adjacency s with
    | none => simp [children, hf] at hc
    | some targets => exact htarget _ (Keyed.mem_of_find? hf) c (by simpa [children, hf] using hc)
  have hlabels : ∀ id ∈ p.nodeIds, ∃ text, p.label statuses id = .ok text :=
    fun _ => exists_label
  choose! label hlabel using hlabels
  have houtlines : ∀ entry ∈ p.entryNodes, ∃ o : Outline,
      p.entryTrees statuses entry = .ok (o.trees label) ∧ o.Shows p entry :=
    fun entry he => exists_entry_outline hlabel hchild (hentry entry he)
  choose! outline houtline using houtlines
  refine ⟨label, outline, hlabel, ?_, fun entry he => (houtline entry he).2⟩
  rw [tree, mapM_of_ok (g := fun entry => (outline entry).trees label)
    fun entry he => (houtline entry he).1]
  rw [List.flatMap]
  rfl

def roundabout : Plan where
  nodes := ["a", "b", "c", "d"].map fun id => (id, ⟨id, .worker, none, none, none, none, none⟩)
  adjacency := [("a", ["b", "c"]), ("b", ["d"]), ("c", ["d", "a"]), ("d", [])]
  edgeData? := none
  entryNodes? := some ["a"]
  terminalNodes? := some ["d"]

theorem roundabout_shown : (∀ id ∈ roundabout.entryNodes, id ∈ roundabout.nodeIds) ∧
    (∀ e ∈ roundabout.adjacency, ∀ t ∈ e.2, t ∈ roundabout.nodeIds) ∧
    ∃ (label : String → String) (outline : String → Outline),
      roundabout.tree [] =
        .ok (.node "[bold]Execution graph[/]" ((outline "a").trees label)) ∧
      (outline "a").Shows roundabout "a" := by
  have hentry : ∀ id ∈ roundabout.entryNodes, id ∈ roundabout.nodeIds := by decide
  have htarget : ∀ e ∈ roundabout.adjacency, ∀ t ∈ e.2, t ∈ roundabout.nodeIds := by decide
  obtain ⟨label, outline, _, htree, hshows⟩ :=
    tree_shows_every_edge roundabout [] hentry htarget
  refine ⟨hentry, htarget, label, outline, ?_, hshows "a" (by decide)⟩
  simpa [roundabout, entryNodes] using htree

example : roundabout.tree [] = .ok (.node "[bold]Execution graph[/]"
    [.node "[cyan][W] a[/]" [.node "[cyan][W] b[/]" [.node "[cyan][W] d[/]" []],
      .node "[cyan][W] c[/]" [shownBefore "d", shownBefore "a"]]]) := by cbv

end Plan

end Workflow
