import Mathlib.Data.List.Forall2
import Workflow.Json.Basic
import Workflow.Proofs.Keyed

/-! Optional values, lists and mappings with parts that are related one by one. -/

namespace Workflow

def Keyed.Same {α : Type} (R : α → α → Prop) (m n : Keyed α) : Prop :=
  ∀ k, Option.Rel R (Keyed.find? m k) (Keyed.find? n k)

inductive Json.Same : Json → Json → Prop
  | refl (x : Json) : Same x x
  | arr {xs ys : List Json} (hl : xs.length = ys.length)
      (h : ∀ (i : Nat) (x y : Json), xs[i]? = some x → ys[i]? = some y → Same x y) :
      Same (.arr xs) (.arr ys)
  | obj {ms ns : Keyed Json} (hk : ∀ k, Keyed.has ms k = Keyed.has ns k)
      (h : ∀ (k : String) (x y : Json), Keyed.find? ms k = some x → Keyed.find? ns k = some y →
        Same x y) :
      Same (.obj ms) (.obj ns)

variable {α β : Type} {R : α → α → Prop} {S : β → β → Prop} {T : α → β → Prop} {x : α} {y : β}

section Option

variable {a b c d : Option α} {z : Option β}

lemma rel_refl (h : ∀ a, R a a) : ∀ a : Option α, Option.Rel R a a
  | none => .none
  | some a => .some (h a)

lemma rel_isSome (h : Option.Rel T a z) : a.isSome = z.isSome := by
  cases h <;> rfl

lemma rel_none_left (h : Option.Rel T none z) : z = none := by
  cases h
  rfl

lemma rel_some_left (h : Option.Rel T (some x) z) : ∃ y, z = some y ∧ T x y := by
  cases h with
  | some h => exact ⟨_, rfl, h⟩

lemma rel_some_right (h : Option.Rel T a (some y)) : ∃ x, a = some x ∧ T x y := by
  cases h with
  | some h => exact ⟨_, rfl, h⟩

lemma rel_imp {T' : α → β → Prop} (h : Option.Rel T a z) (hT : ∀ x y, T x y → T' x y) :
    Option.Rel T' a z := by
  cases h with
  | none => exact .none
  | some h => exact .some (hT _ _ h)

lemma rel_or (h : Option.Rel R a b) (h' : Option.Rel R c d) :
    Option.Rel R (a.or c) (b.or d) := by
  cases h with
  | none => exact h'
  | some h => exact .some h

lemma rel_map {f : α → β} (h : Option.Rel R a b) (hf : ∀ x y, R x y → S (f x) (f y)) :
    Option.Rel S (a.map f) (b.map f) := by
  cases h with
  | none => exact .none
  | some h => exact .some (hf _ _ h)

lemma rel_filter {p : α → Bool} (h : Option.Rel R a b) (hp : ∀ x y, R x y → p x = p y) :
    Option.Rel R (a.filter p) (b.filter p) := by
  cases h with
  | none => exact .none
  | some h =>
    rw [Option.filter_some, Option.filter_some, hp _ _ h]
    split
    · exact .some h
    · exact .none

end Option

lemma forall₂_imp_mem {l k : List α} {Q : α → α → Prop} (h : List.Forall₂ R l k)
    (hR : ∀ x ∈ l, ∀ y ∈ k, R x y → Q x y) : List.Forall₂ Q l k := by
  induction h with
  | nil => exact .nil
  | cons hxy _ ih =>
    refine .cons (hR _ List.mem_cons_self _ List.mem_cons_self hxy) (ih fun x hx y hy => ?_)
    exact hR x (List.mem_cons_of_mem _ hx) y (List.mem_cons_of_mem _ hy)

lemma exists_of_forall₂ {l k : List α} {b : α} (h : List.Forall₂ R l k) (hb : b ∈ k) :
    ∃ a ∈ l, R a b := by
  induction h with
  | nil => cases hb
  | cons hxy _ ih =>
    rcases List.mem_cons.mp hb with rfl | hb
    · exact ⟨_, List.mem_cons_self, hxy⟩
    · obtain ⟨a, ha, hab⟩ := ih hb
      exact ⟨a, List.mem_cons_of_mem _ ha, hab⟩

lemma forall₂_filter {l k : List α} {p : α → Bool} (h : List.Forall₂ R l k)
    (hp : ∀ x y, R x y → p x = p y) : List.Forall₂ R (l.filter p) (k.filter p) :=
  List.rel_filter (fun x y hxy => Bool.eq_iff_iff.mp (hp x y hxy)) h

lemma map_eq_of_forall₂ {l k : List α} {f : α → β} (h : List.Forall₂ R l k)
    (hf : ∀ x y, R x y → f x = f y) : l.map f = k.map f := by
  induction h with
  | nil => rfl
  | cons hxy _ ih => rw [List.map_cons, List.map_cons, hf _ _ hxy, ih]

lemma forall_left {l k : List α} {p : α → Prop} (h : List.Forall₂ R l k)
    (hp : ∀ x y, R x y → p x) : ∀ x ∈ l, p x :=
  ((List.forall₂_and_left l k).mp (h.imp fun _ _ hxy => ⟨hp _ _ hxy, hxy⟩)).1

namespace Keyed

variable {m n : Keyed α} {e : String × α}

lemma Same.refl (h : ∀ a, R a a) (m : Keyed α) : Same R m m := fun _ => rel_refl h _

lemma same_iff : Same R m n ↔ (∀ k, has m k = has n k) ∧
    ∀ (k : String) (x y : α), find? m k = some x → find? n k = some y → R x y := by
  have hrel : ∀ a b : Option α, Option.Rel R a b ↔
      a.isSome = b.isSome ∧ ∀ x y, a = some x → b = some y → R x y := by
    intro a b
    cases a <;> cases b <;> simp [Option.rel_some_some]
  exact (forall_congr' fun k => hrel _ _).trans forall_and

lemma Same.exists_left (h : Same R m n) (hm : (keys m).Nodup) (he : e ∈ m) :
    ∃ y, find? n e.1 = some y ∧ R e.2 y := by
  have hk := h e.1
  rw [find?_of_mem hm he] at hk
  exact rel_some_left hk

lemma Same.flip (h : Same R m n) : Same (flip R) n m := by
  intro k
  have hk := h k
  generalize find? m k = a, find? n k = b at hk
  cases hk with
  | none => exact .none
  | some hxy => exact .some hxy

lemma Same.set {v w : α} (h : Same R m n) (hvw : R v w) (k : String) :
    Same R (set m k v) (set n k w) := by
  intro j
  rw [find?_set, find?_set]
  split
  · exact .some hvw
  · exact h j

lemma Same.merge {l o : Keyed α} (h : Same R m n) (h' : Same R l o) (hl : (keys l).Nodup)
    (ho : (keys o).Nodup) : Same R (merge m l) (merge n o) := by
  intro k
  rw [find?_merge, find?_merge, ofPairs_of_nodup hl, ofPairs_of_nodup ho]
  exact rel_or (h' k) (h k)

lemma rel_find? (h : List.Forall₂ (fun e d => e.1 = d.1 ∧ R e.2 d.2) m n) : Same R m n := by
  intro k
  induction h with
  | nil => exact .none
  | @cons e d _ _ hed _ ih =>
    rw [find?, find?, ← hed.1]
    split
    · exact .some hed.2
    · exact ih

end Keyed

end Workflow
