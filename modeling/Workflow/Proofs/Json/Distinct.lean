import Mathlib.Data.List.Nodup
import Mathlib.Tactic.Lemma
import Workflow.Json.Reader
import Workflow.Proofs.Keyed

/-! Values in which no object has two members of one name: whatever is read from a text. -/

namespace Workflow

lemma Keyed.mem_set {α : Type} {m : Keyed α} {k : String} {v : α} {e : String × α}
    (h : e ∈ Keyed.set m k v) : e = (k, v) ∨ e ∈ m := by
  induction m with
  | nil => simpa [Keyed.set] using h
  | cons d m ih =>
    obtain ⟨j, w⟩ := d
    by_cases hj : j = k
    · simp only [Keyed.set, hj, ↓reduceIte, List.mem_cons] at h
      exact h.imp_right (List.mem_cons_of_mem _)
    · simp only [Keyed.set, hj, ↓reduceIte, List.mem_cons] at h
      rcases h with rfl | h
      · exact .inr List.mem_cons_self
      · exact (ih h).imp_right (List.mem_cons_of_mem _)

lemma Keyed.nodup_set {α : Type} {m : Keyed α} {k : String} {v : α} (h : (Keyed.keys m).Nodup) :
    (Keyed.keys (Keyed.set m k v)).Nodup := by
  rw [Keyed.keys_set]
  split
  · exact h
  · rename_i hk
    exact h.append (List.nodup_singleton k) (by simpa using hk)

namespace Json

mutual

def distinct : Json → Bool
  | .arr items => distinctItems items
  | .obj members => decide (Keyed.keys members).Nodup && distinctMembers members
  | _ => true

def distinctItems : List Json → Bool
  | [] => true
  | x :: xs => distinct x && distinctItems xs

def distinctMembers : List (String × Json) → Bool
  | [] => true
  | (_, x) :: ms => distinct x && distinctMembers ms

end

lemma distinct_arr {xs : List Json} : distinct (.arr xs) = true ↔ ∀ x ∈ xs, x.distinct = true := by
  rw [distinct]
  induction xs with
  | nil => simp [distinctItems]
  | cons x xs ih => simp [distinctItems, ih]

lemma distinctMembers_iff {ms : Keyed Json} :
    distinctMembers ms = true ↔ ∀ e ∈ ms, e.2.distinct = true := by
  induction ms with
  | nil => simp [distinctMembers]
  | cons e ms ih => rw [distinctMembers, Bool.and_eq_true, ih, List.forall_mem_cons]

lemma distinct_obj {ms : Keyed Json} : distinct (.obj ms) = true ↔
    (Keyed.keys ms).Nodup ∧ ∀ e ∈ ms, e.2.distinct = true := by
  rw [distinct, Bool.and_eq_true, decide_eq_true_iff, distinctMembers_iff]

lemma distinct_set {ms : Keyed Json} {k : String} {x : Json} (h : distinct (.obj ms) = true)
    (hx : x.distinct = true) : distinct (.obj (Keyed.set ms k x)) = true := by
  obtain ⟨hn, hms⟩ := distinct_obj.mp h
  refine distinct_obj.mpr ⟨Keyed.nodup_set hn, fun e he => ?_⟩
  rcases Keyed.mem_set he with rfl | he
  · exact hx
  · exact hms e he

namespace Reader

lemma bind_eq_ok {α β : Type} {x : Except Stop α} {f : α → Except Stop β} {y : β} :
    (x >>= f) = .ok y ↔ ∃ a, x = .ok a ∧ f a = .ok y := by
  cases x <;> simp [bind, Except.bind]

variable {limit fuel : ℕ}

/-- What a reader makes has the property. -/
structure Makes (limit : ℕ) (P : Json → Prop) : Prop where
  null : P .null
  bool : ∀ b, P (.bool b)
  str : ∀ s, P (.str s)
  nan : P (.float (.nan true))
  infinite : ∀ negative, P (.float (.infinite negative))
  number : ∀ {cs rest x}, number limit cs = .ok (x, rest) → P x
  arr : ∀ {xs}, (∀ x ∈ xs, P x) → P (.arr xs)
  obj : ∀ {ms : Keyed Json}, (Keyed.keys ms).Nodup → (∀ e ∈ ms, P e.2) → P (.obj ms)

structure MakesWithin (limit : ℕ) (P : Json → Prop) (fuel : ℕ) : Prop where
  value : ∀ {cs rest x}, value limit fuel cs = .ok (x, rest) → P x
  items : ∀ {read cs rest x}, items limit fuel read cs = .ok (x, rest) → (∀ y ∈ read, P y) → P x
  members : ∀ {read cs rest x}, members limit fuel read cs = .ok (x, rest) →
    (Keyed.keys read).Nodup → (∀ e ∈ read, P e.2) → P x

variable {P : Json → Prop}

lemma MakesWithin.succ (hP : Makes limit P) (ih : MakesWithin limit P fuel) :
    MakesWithin limit P (fuel + 1) where
  value {cs rest x} h := by
    unfold Reader.value at h
    split at h
    · obtain ⟨s, _, h⟩ := bind_eq_ok.mp h
      cases h
      exact hP.str _
    · split at h
      · cases h
        exact hP.obj List.nodup_nil (List.forall_mem_nil _)
      · exact ih.members h List.nodup_nil (List.forall_mem_nil _)
    · split at h
      · cases h
        exact hP.arr (List.forall_mem_nil _)
      · exact ih.items h (List.forall_mem_nil _)
    · cases h
      exact hP.null
    · cases h
      exact hP.bool true
    · cases h
      exact hP.bool false
    · cases h
      exact hP.nan
    · cases h
      exact hP.infinite false
    · cases h
      exact hP.infinite true
    · exact hP.number h
  items {read cs rest x} h hread := by
    unfold Reader.items at h
    obtain ⟨⟨y, rest'⟩, hy, h⟩ := bind_eq_ok.mp h
    have hall : ∀ z ∈ y :: read, P z := List.forall_mem_cons.mpr ⟨ih.value hy, hread⟩
    dsimp only at h
    split at h
    · cases h
      exact hP.arr fun z hz => hall z (List.mem_reverse.mp hz)
    · exact ih.items h hall
    · cases h
  members {read cs rest x} h hn hread := by
    unfold Reader.members at h
    split at h
    · obtain ⟨⟨name, rest'⟩, _, h⟩ := bind_eq_ok.mp h
      dsimp only at h
      split at h
      · obtain ⟨⟨y, rest''⟩, hy, h⟩ := bind_eq_ok.mp h
        have hn' : (Keyed.keys (Keyed.set read name y)).Nodup := Keyed.nodup_set hn
        have hall : ∀ e ∈ Keyed.set read name y, P e.2 := fun e he =>
          (Keyed.mem_set he).elim (fun heq => heq ▸ ih.value hy) (hread e)
        dsimp only at h
        split at h
        · cases h
          exact hP.obj hn' hall
        · exact ih.members h hn' hall
        · cases h
      · cases h
    · cases h

lemma Makes.within (hP : Makes limit P) (fuel : ℕ) : MakesWithin limit P fuel := by
  induction fuel with
  | zero => exact ⟨nofun, nofun, nofun⟩
  | succ fuel ih => exact ih.succ hP

lemma distinct_number {cs rest : List Char} {x : Json} (h : number limit cs = .ok (x, rest)) :
    x.distinct = true := by
  unfold number at h
  grind [distinct, stop]

lemma makes_distinct (limit : ℕ) : Makes limit fun x => x.distinct = true where
  null := rfl
  bool _ := rfl
  str _ := rfl
  nan := rfl
  infinite _ := rfl
  number := distinct_number
  arr := distinct_arr.mpr
  obj hn h := distinct_obj.mpr ⟨hn, h⟩

end Reader

lemma of_read {limit : ℕ} {text : String} {x : Json} {P : Json → Prop}
    (hP : Reader.Makes limit P) (h : readWithin limit text = .ok x) : P x := by
  unfold readWithin at h
  dsimp only at h
  split at h
  · cases h
  · split at h
    · rename_i hdoc
      cases h
      obtain ⟨⟨y, rest⟩, hy, hend⟩ := Reader.bind_eq_ok.mp hdoc
      dsimp only at hend
      split at hend
      · cases hend
        exact (hP.within _).value hy
      · cases hend
    · cases h
    · cases h

theorem distinct_of_read {limit : ℕ} {text : String} {x : Json}
    (h : readWithin limit text = .ok x) : x.distinct = true :=
  of_read (Reader.makes_distinct limit) h

end Json

end Workflow
