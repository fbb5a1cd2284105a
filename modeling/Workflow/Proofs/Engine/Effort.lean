import Mathlib.Algebra.Order.BigOperators.Group.List
import Mathlib.Data.Prod.Lex
import Workflow.Engine.Drain
import Workflow.Proofs.Engine.Grown
import Workflow.Proofs.Plan.Paths

/-! What a step uses up. A walk or a fire that writes leaves less to do; one that writes nothing is
followed by messages nearer to the end of the plan, which weigh less. -/

namespace Workflow

namespace Keyed

variable {α : Type} {m : Keyed α} {k : String} {v w : α}

lemma sum_values_set (f : α → ℕ) (h : find? m k = some v) :
    ((values (set m k w)).map f).sum + f v = ((values m).map f).sum + f w := by
  induction m with
  | nil => cases h
  | cons e rest ih =>
    obtain ⟨j, x⟩ := e
    by_cases hj : j = k
    · obtain rfl : x = v := by simpa [find?, hj] using h
      simp only [set, hj, ↓reduceIte, values, List.map_cons, List.sum_cons]
      omega
    · have hrest := ih (by simpa [find?, hj] using h)
      simp only [values] at hrest
      simp only [set, hj, ↓reduceIte, values, List.map_cons, List.sum_cons]
      omega

end Keyed

namespace Plan

variable {p : Plan} {a : String}

lemma length_children_le : (p.children a).length ≤ p.edges.length := by
  rw [children]
  cases h : Keyed.find? p.adjacency a with
  | none => exact Nat.zero_le _
  | some l =>
    obtain ⟨before, later, he⟩ := List.append_of_mem (Keyed.mem_of_find? h)
    simp only [edges, he, List.flatMap_append, List.flatMap_cons, List.length_append,
      List.length_map, Option.getD_some]
    omega

end Plan

namespace Engine

variable {p : Plan} {now : Instant} {r : Run} {n : PlanNode} {key : String} {x : Json}
  {u : NodeUpdate} {s : NodeState} {ws : List Write} {o : Outcome} {m : Message}
  {targets : List String} {items : List Json} {queue : List Message} {qs : List Request}

lemma movesLeft_eq (r : Run) :
    movesLeft r = ((Keyed.values r.states).map fun s => s.status.movesLeft).sum := by
  rw [movesLeft, List.sum_eq_foldl, List.foldl_map]

lemma movesLeft_update (now : Instant) (u : NodeUpdate) (hs : r.state? key = some s) :
    movesLeft (r.update now key u) + s.status.movesLeft =
      movesLeft r + (u.status.getD s.status).movesLeft := by
  rw [Run.update_eq hs, movesLeft_eq, movesLeft_eq]
  exact Keyed.sum_values_set (fun s => s.status.movesLeft) hs

lemma wholeNodes_update : wholeNodes p (r.update now key u) = wholeNodes p r := by
  simp only [wholeNodes, Run.hasInstances_update]

lemma hasInstances_fanned {t : String} (hsp : r.Spawnable targets items) :
    (r.fanned targets items).hasInstances t = (decide (t ∈ targets) || r.hasInstances t) := by
  rw [Run.hasInstances, Keyed.has, Run.find?_instances_fanned hsp]
  by_cases ht : t ∈ targets
  · simp [ht]
  · simp [ht, Run.hasInstances, Keyed.has]

lemma wholeNodes_fanned_lt (hsp : r.Spawnable targets items) (hne : targets ≠ [])
    (hmem : ∀ t ∈ targets, t ∈ p.nodeIds) :
    wholeNodes p (r.fanned targets items) < wholeNodes p r := by
  obtain ⟨t, ht⟩ := List.exists_mem_of_ne_nil _ hne
  have hsub : (p.nodeIds.filter fun id => !(r.fanned targets items).hasInstances id).Sublist
      (p.nodeIds.filter fun id => !r.hasInstances id) :=
    List.monotone_filter_right _ fun id hid => by
      simp only [hasInstances_fanned hsp, Bool.not_or, Bool.and_eq_true] at hid
      exact hid.2
  refine lt_of_le_of_ne hsub.length_le fun he => ?_
  have hold : t ∈ p.nodeIds.filter fun id => !r.hasInstances id := by
    simp [hmem t ht, hsp.whole t ht]
  rw [← hsub.eq_of_length he] at hold
  simp [hasInstances_fanned hsp, ht] at hold

def left (p : Plan) (r : Run) : ℕ ×ₗ ℕ := toLex (wholeNodes p r, movesLeft r)

lemma left_update_lt (hs : r.state? key = some s)
    (h : (u.status.getD s.status).movesLeft < s.status.movesLeft) :
    left p (r.update now key u) < left p r := by
  have hmoves := movesLeft_update now u hs
  exact Prod.Lex.toLex_lt_toLex.mpr (.inr ⟨wholeNodes_update, by omega⟩)

lemma left_update_le (hs : r.state? key = some s)
    (h : (u.status.getD s.status).movesLeft ≤ s.status.movesLeft) :
    left p (r.update now key u) ≤ left p r := by
  have hmoves := movesLeft_update now u hs
  exact Prod.Lex.toLex_le_toLex.mpr (.inr ⟨wholeNodes_update, by omega⟩)

lemma left_fanned_lt (hsp : r.Spawnable targets items) (hne : targets ≠ [])
    (hmem : ∀ t ∈ targets, t ∈ p.nodeIds) :
    left p ((r.fanned targets items).update now key u) < left p r :=
  Prod.Lex.toLex_lt_toLex.mpr
    (.inl (wholeNodes_update.trans_lt (wholeNodes_fanned_lt hsp hne hmem)))

lemma Worked.left_le (now : Instant) (hwf : p.WellFormed) (h : Worked p r n key x ws o)
    (hs : r.Has key .running) : left p (r.afterAll now ws) ≤ left p r := by
  obtain ⟨s, hs, hrun⟩ := hs
  cases h with
  | sent => exact le_rfl
  | parked =>
    refine left_update_le hs ?_
    rw [hrun]
    exact le_rfl
  | unsplit | whole | rejected | uncollected | collected =>
    exact left_update_le hs (Nat.zero_le _)
  | split hk hi ht hsp =>
    exact (left_fanned_lt hsp ht fun t ht => hwf.child_mem (Plan.mem_fannedOut.mp ht).1).le

lemma Started.lowers (hwf : p.WellFormed) (h : Started p now r n key x .pending ws o) :
    left p (r.afterAll now ws) < left p r ∨ ws = [] ∧ o = .nothing := by
  cases h with
  | skipped => exact .inr ⟨rfl, rfl⟩
  | worked hs hw =>
    have hwork := hw.left_le now hwf (has_claimed now hs)
    obtain ⟨s, hs, hpend⟩ := hs
    refine .inl (hwork.trans_lt (left_update_lt hs ?_))
    rw [hpend]
    exact Nat.one_lt_two

lemma FiredAll.lowers {snap : Run} {mapping : Mapping} {l : List String} (hwf : p.WellFormed)
    (h : FiredAll p now snap n mapping r l ws o) :
    left p (r.afterAll now ws) < left p r ∨ ws = [] ∧ o = .nothing := by
  induction h with
  | nil => exact .inr ⟨rfl, rfl⟩
  | passed _ _ ih => exact ih
  | fired hs hp hi hw _ ih =>
    rw [Run.afterAll_append]
    rcases hw.lowers hwf with hlt | ⟨rfl, rfl⟩ <;> rcases ih with hlt' | ⟨rfl, rfl⟩
    · exact .inl (hlt'.trans hlt)
    · exact .inl hlt
    · exact .inl hlt'
    · exact .inr ⟨rfl, rfl⟩

inductive Unspent (p : Plan) (r : Run) : Message → Outcome → Prop where
  | nothing {m : Message} : Unspent p r m .nothing
  | walked {key : String} {l} (hl : ∀ a ∈ l, a ∈ p.children (r.template key)) :
      Unspent p r (.walk key) (.fire l)
  | hollow {node} (hn : r.template node = node) : Unspent p r (.fire node) (.walk node)

lemma Handled.lowers (hwf : p.WellFormed) (hso : r.Sound p) (h : Handled p now r m ws o)
    (hm : m.isCommand = false) :
    left p (r.afterAll now ws) < left p r ∨ ws = [] ∧ Unspent p r m o := by
  cases h with
  | walked hn hl => exact .inr ⟨rfl, .walked fun a ha => ((hl a).mp ha).1⟩
  | strayed | missing => exact .inr ⟨rfl, .nothing⟩
  | hollow hn => exact .inr ⟨rfl, .hollow (hso.template_node hn)⟩
  | instances hn hi hne hmap hf =>
    rcases hf.lowers hwf with hlt | ⟨rfl, rfl⟩
    · exact .inl hlt
    · exact .inr ⟨rfl, .nothing⟩
  | whole hn hi hin hs =>
    rcases hs.lowers hwf with hlt | ⟨rfl, rfl⟩
    · exact .inl hlt
    · exact .inr ⟨rfl, .nothing⟩
  | ignored | reported | resumed | retried | reconciled => cases hm

lemma Handled.left_le (hwf : p.WellFormed) (hso : r.Sound p) (h : Handled p now r m ws o)
    (hm : m.isCommand = false) : left p (r.afterAll now ws) ≤ left p r := by
  rcases h.lowers hwf hso hm with hlt | ⟨rfl, _⟩
  · exact hlt.le
  · exact le_rfl

lemma Drained.left_le (hwf : p.WellFormed) (h : Drained p now r queue ws qs) (hso : r.Sound p)
    (hq : ∀ m ∈ queue, m.isCommand = false) : left p (r.afterAll now ws) ≤ left p r := by
  induction h with
  | done => exact le_rfl
  | @next r m rest ws o xs qs hm hl hd ih =>
    obtain ⟨hfirst, hrest⟩ := List.forall_mem_cons.mp hq
    rw [Run.afterAll_append]
    refine (ih (hso.afterAll hwf.child_mem hl) fun a ha => ?_).trans (hm.left_le hwf hso hfirst)
    exact (List.mem_append.mp ha).elim (hrest a) (hm.no_command a)

noncomputable def weight (p : Plan) (r : Run) : Message → ℕ
  | .fire node => (p.edges.length + 2) ^ (p.ahead node + 1)
  | .walk key => (p.edges.length + 2) ^ (p.ahead (r.template key) + 1) - 1
  | _ => 0

noncomputable def load (p : Plan) (r : Run) (queue : List Message) : ℕ :=
  (queue.map (weight p r)).sum

@[simp] lemma load_nil : load p r [] = 0 := rfl

@[simp] lemma load_cons : load p r (m :: queue) = weight p r m + load p r queue := by simp [load]

@[simp] lemma load_append (queue queue' : List Message) :
    load p r (queue ++ queue') = load p r queue + load p r queue' := by simp [load]

lemma weight_pos (hm : m.isCommand = false) : 0 < weight p r m := by
  cases m with
  | fire node => exact Nat.pow_pos (by omega)
  | walk key =>
    exact Nat.sub_pos_of_lt (Nat.one_lt_pow (Nat.succ_ne_zero _) (by omega))
  | callback | resume | retry | reconcile => cases hm

lemma load_le (hwf : p.WellFormed) (queue : List Message) :
    load p r queue ≤ queue.length * (p.edges.length + 2) ^ (p.nodes.length + 1) := by
  have hnodes : p.nodeIds.length = p.nodes.length := by simp [Plan.nodeIds, Keyed.keys]
  have hpow : ∀ a, (p.edges.length + 2) ^ (p.ahead a + 1) ≤
      (p.edges.length + 2) ^ (p.nodes.length + 1) := fun a =>
    Nat.pow_le_pow_right (by omega) (Nat.succ_le_succ (hnodes ▸ hwf.ahead_le))
  rw [load, ← Nat.nsmul_eq_mul, ← List.length_map (weight p r)]
  refine List.sum_le_card_nsmul _ _ fun x hx => ?_
  obtain ⟨m, _, rfl⟩ := List.mem_map.mp hx
  cases m with
  | fire node => exact hpow node
  | walk key => exact (Nat.sub_le _ _).trans (hpow _)
  | callback | resume | retry | reconcile => exact Nat.zero_le _

lemma length_readyAmong (hso : r.Sound p) {l ready : List String}
    (h : readyAmong p r l = .ok ready) : ready.length ≤ l.length := by
  induction l generalizing ready with
  | nil =>
    obtain rfl := Except.ok.inj h
    exact le_rfl
  | cons a rest ih =>
    obtain ⟨b, hb, _⟩ := isReady_ok hso (n := a)
    obtain ⟨others, hothers, _⟩ := readyAmong_ok hso rest
    have hlen := ih hothers
    rw [readyAmong, hb, hothers] at h
    obtain rfl := Except.ok.inj h
    split
    · exact Nat.succ_le_succ hlen
    · exact hlen.trans (Nat.le_succ _)

lemma length_walk (hso : r.Sound p) {w w' : World} (h : walk p r key w = .ok o w') :
    o.messages.length ≤ p.edges.length := by
  cases hn : p.node? (r.template key) with
  | none =>
    simp only [walk, hn] at h
    obtain ⟨rfl, _⟩ := EStateM.Result.ok.inj h
    exact Nat.zero_le _
  | some n =>
    simp only [walk, hn] at h
    obtain ⟨l, hl, _⟩ := readyAmong_ok hso (p.children (r.template key))
    rw [Action.bind_of_ok (Action.lift_ok hl)] at h
    obtain ⟨rfl, _⟩ := EStateM.Result.ok.inj h
    simpa [Outcome.fire] using (length_readyAmong hso hl).trans Plan.length_children_le

lemma load_fire_lt (hwf : p.WellFormed) {l : List String}
    (hl : ∀ a ∈ l, a ∈ p.children (r.template key)) (hlen : l.length ≤ p.edges.length) :
    load p r (Outcome.fire l).messages < weight p r (.walk key) := by
  have hpos : 0 < (p.edges.length + 2) ^ p.ahead (r.template key) := Nat.pow_pos (by omega)
  -- Fewer nodes lie ahead of a child, and there are fewer children than the base of the powers.
  have hsum : load p r (Outcome.fire l).messages ≤
      l.length * (p.edges.length + 2) ^ p.ahead (r.template key) := by
    rw [load, Outcome.fire, List.map_map, ← Nat.nsmul_eq_mul,
      ← List.length_map (weight p r ∘ Message.fire)]
    refine List.sum_le_card_nsmul _ _ fun x hx => ?_
    obtain ⟨a, ha, rfl⟩ := List.mem_map.mp hx
    exact Nat.pow_le_pow_right (by omega) (hwf.ahead_lt (hl a ha))
  have hmul := Nat.mul_le_mul_right ((p.edges.length + 2) ^ p.ahead (r.template key)) hlen
  simp only [weight, pow_succ, Nat.mul_comm _ (p.edges.length + 2), Nat.add_mul]
  omega

lemma Unspent.load_lt (hwf : p.WellFormed) (h : Unspent p r m o) (hm : m.isCommand = false)
    (hlen : ∀ key, m = .walk key → o.messages.length ≤ p.edges.length) :
    load p r o.messages < weight p r m := by
  have hpos := weight_pos (p := p) (r := r) hm
  cases h with
  | nothing => exact hpos
  | walked hl => exact load_fire_lt hwf hl (by simpa [Outcome.fire] using hlen _ rfl)
  | hollow hid =>
    simp only [Outcome.walk, load_cons, load_nil, weight, hid] at hpos ⊢
    omega

lemma Handled.report_lowers {c : Callback} (h : Handled p now r (.callback key c) ws o) :
    left p (r.afterAll now ws) < left p r ∧ o = .walk key ∨ ws = [] ∧ o = .nothing := by
  cases h with
  | ignored => exact .inr ⟨rfl, rfl⟩
  | reported hs hnotes =>
    obtain ⟨s, hs, hrun⟩ := hs
    refine .inl ⟨?_, rfl⟩
    rw [Run.afterAll_cons, afterAll_notes hnotes]
    refine left_update_lt hs ?_
    rw [hrun]
    unfold Engine.reported
    cases c.result <;> exact Nat.one_pos

end Engine

end Workflow
