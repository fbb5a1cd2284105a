import Mathlib.Data.Set.Card
import Workflow.Proofs.Plan.Compiled

/-! Paths through a compiled plan: none comes back, and all of them lie between an entry node and a
terminal node. -/

namespace Workflow.Plan

variable {p : Plan} {a b : String}

def Leads (p : Plan) (a b : String) : Prop := b ∈ p.children a

def Reaches (p : Plan) : String → String → Prop := Relation.TransGen p.Leads

noncomputable def ahead (p : Plan) (a : String) : ℕ := {b | p.Reaches a b}.ncard

section

variable (hwf : p.WellFormed)
include hwf

lemma WellFormed.acyclic : ¬ p.Reaches a a := hwf.upward.transGen.irrefl.irrefl a

lemma WellFormed.reached_mem (h : p.Reaches a b) : b ∈ p.nodeIds := by
  obtain ⟨_, _, hb⟩ := Relation.TransGen.tail'_iff.mp h
  exact hwf.child_mem hb

lemma WellFormed.finite_reached : {b | p.Reaches a b}.Finite :=
  (List.finite_toSet p.nodeIds).subset fun _ h => hwf.reached_mem h

lemma WellFormed.ahead_lt (h : p.Leads a b) : p.ahead b < p.ahead a := by
  refine Set.ncard_lt_ncard ?_ hwf.finite_reached
  refine Set.ssubset_iff_exists.mpr ⟨fun c hc => .head h hc, b, .single h, hwf.acyclic⟩

lemma WellFormed.ahead_le : p.ahead a ≤ p.nodeIds.length := by
  calc p.ahead a ≤ (p.nodeIds.toFinset : Set String).ncard :=
        Set.ncard_le_ncard (fun b hb => by simpa using hwf.reached_mem hb) (Finset.finite_toSet _)
    _ = p.nodeIds.toFinset.card := Set.ncard_coe_finset _
    _ ≤ p.nodeIds.length := List.toFinset_card_le _

lemma WellFormed.downward : WellFounded fun a b => p.Leads b a :=
  Subrelation.wf (fun h => hwf.ahead_lt h) (measure p.ahead).wf

lemma WellFormed.exists_entry (ha : a ∈ p.nodeIds) :
    ∃ entry ∈ p.entryNodes, Relation.ReflTransGen p.Leads entry a := by
  induction a using hwf.upward.induction with
  | h a ih =>
    cases hp : p.parents a with
    | nil => exact ⟨a, hwf.entry_iff.mpr ⟨ha, hp⟩, .refl⟩
    | cons s rest =>
      have hs : p.Leads s a := hwf.parents_iff.mp (hp ▸ List.mem_cons_self)
      obtain ⟨entry, hentry, hpath⟩ := ih s hs (hwf.parent_mem hs)
      exact ⟨entry, hentry, hpath.tail hs⟩

lemma WellFormed.exists_last (ha : a ∈ p.nodeIds) : ∃ b ∈ p.nodeIds, p.children b = [] := by
  induction a using hwf.downward.induction with
  | h a ih =>
    cases hc : p.children a with
    | nil => exact ⟨a, ha, hc⟩
    | cons b rest =>
      have hb : p.Leads a b := by simp [Leads, hc]
      exact ih b hb (hwf.child_mem hb)

end

end Workflow.Plan
