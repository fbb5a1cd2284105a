import Workflow.Json.Basic
import Workflow.Proofs.Json.Distinct

/-! Values as documents keep them: what is finite is kept as it is, and nothing is lost twice. -/

namespace Workflow

variable {α : Type} {f : α → α} {a : Option α}

lemma list_map_eq_self {l : List α} : l.map f = l ↔ ∀ a ∈ l, f a = a := by
  induction l with
  | nil => simp
  | cons a l ih => rw [List.map_cons, List.cons.injEq, ih, List.forall_mem_cons]

lemma mapValues_eq_self {m : Keyed α} : Keyed.mapValues f m = m ↔ ∀ e ∈ m, f e.2 = e.2 := by
  rw [Keyed.mapValues, list_map_eq_self]
  simp only [Prod.ext_iff, true_and]

lemma option_map_eq_self : a.map f = a ↔ ∀ x ∈ a, f x = x := by
  cases a <;> simp

namespace Floating

lemma written_written (x : Floating) : x.written.written = x.written := by
  cases x <;> rfl

end Floating

namespace Json

mutual

def numbers (p : Floating → Bool) : Json → Bool
  | .float x => p x
  | .arr items => numbersItems p items
  | .obj members => numbersMembers p members
  | _ => true

def numbersItems (p : Floating → Bool) : List Json → Bool
  | [] => true
  | x :: xs => numbers p x && numbersItems p xs

def numbersMembers (p : Floating → Bool) : List (String × Json) → Bool
  | [] => true
  | (_, x) :: ms => numbers p x && numbersMembers p ms

end

abbrev finite : Json → Bool := numbers Floating.isFinite

abbrev finiteItems : List Json → Bool := numbersItems Floating.isFinite

abbrev finiteMembers : List (String × Json) → Bool := numbersMembers Floating.isFinite

variable {p q : Floating → Bool} {x : Json} {xs : List Json} {ms : Keyed Json}

lemma numbersItems_iff : numbersItems p xs = true ↔ ∀ x ∈ xs, x.numbers p = true := by
  induction xs <;> simp_all [numbersItems]

lemma numbersMembers_iff : numbersMembers p ms = true ↔ ∀ e ∈ ms, e.2.numbers p = true := by
  induction ms with
  | nil => simp [numbersMembers]
  | cons e ms ih => rw [numbersMembers, Bool.and_eq_true, ih, List.forall_mem_cons]

lemma writtenItems_eq : writtenItems xs = xs.map written := by
  induction xs with
  | nil => rfl
  | cons x xs ih => rw [writtenItems, ih, List.map_cons]

lemma writtenMembers_eq : writtenMembers ms = Keyed.mapValues written ms := by
  induction ms with
  | nil => rfl
  | cons e ms ih =>
    rw [writtenMembers, ih]
    rfl

lemma keys_writtenMembers : Keyed.keys (writtenMembers ms) = Keyed.keys ms := by
  rw [writtenMembers_eq, Keyed.keys_mapValues]

mutual

theorem numbers_imp (h : ∀ x, p x = true → q x = true) :
    ∀ x : Json, x.numbers p = true → x.numbers q = true
  | .null, _ | .bool _, _ | .int _, _ | .str _, _ => rfl
  | .float x, hx => h x hx
  | .arr xs, hx => numbersItems_imp h xs hx
  | .obj ms, hx => numbersMembers_imp h ms hx

theorem numbersItems_imp (h : ∀ x, p x = true → q x = true) :
    ∀ xs : List Json, numbersItems p xs = true → numbersItems q xs = true
  | [], _ => rfl
  | x :: xs, hx =>
    have ⟨hx, hxs⟩ := Bool.and_eq_true_iff.mp hx
    Bool.and_eq_true_iff.mpr ⟨numbers_imp h x hx, numbersItems_imp h xs hxs⟩

theorem numbersMembers_imp (h : ∀ x, p x = true → q x = true) :
    ∀ ms : List (String × Json), numbersMembers p ms = true → numbersMembers q ms = true
  | [], _ => rfl
  | (_, x) :: ms, hx =>
    have ⟨hx, hms⟩ := Bool.and_eq_true_iff.mp hx
    Bool.and_eq_true_iff.mpr ⟨numbers_imp h x hx, numbersMembers_imp h ms hms⟩

end

mutual

theorem finite_written : ∀ x : Json, x.written.finite = true
  | .null | .bool _ | .int _ | .str _ => rfl
  | .float x => by
    rw [written]
    split
    · assumption
    · rfl
  | .arr xs => finiteItems_written xs
  | .obj ms => finiteMembers_written ms

theorem finiteItems_written : ∀ xs : List Json, finiteItems (writtenItems xs) = true
  | [] => rfl
  | x :: xs => Bool.and_eq_true_iff.mpr ⟨finite_written x, finiteItems_written xs⟩

theorem finiteMembers_written :
    ∀ ms : List (String × Json), finiteMembers (writtenMembers ms) = true
  | [] => rfl
  | (_, x) :: ms => Bool.and_eq_true_iff.mpr ⟨finite_written x, finiteMembers_written ms⟩

end

mutual

theorem written_eq_self_iff : ∀ x : Json, x.written = x ↔ x.finite = true
  | .null | .bool _ | .int _ | .str _ => by simp [written, numbers]
  | .float x => by
    rw [written, finite, numbers]
    split <;> simp_all
  | .arr xs => by rw [written, finite, numbers, Json.arr.injEq, writtenItems_eq_self_iff xs]
  | .obj ms => by rw [written, finite, numbers, Json.obj.injEq, writtenMembers_eq_self_iff ms]

theorem writtenItems_eq_self_iff : ∀ xs : List Json, writtenItems xs = xs ↔ finiteItems xs = true
  | [] => by simp [writtenItems, numbersItems]
  | x :: xs => by
    rw [writtenItems, finiteItems, numbersItems, List.cons.injEq, written_eq_self_iff x,
      writtenItems_eq_self_iff xs, Bool.and_eq_true]

theorem writtenMembers_eq_self_iff : ∀ ms : List (String × Json),
    writtenMembers ms = ms ↔ finiteMembers ms = true
  | [] => by simp [writtenMembers, numbersMembers]
  | (k, x) :: ms => by
    simp [writtenMembers, numbersMembers, written_eq_self_iff x, writtenMembers_eq_self_iff ms]

end

lemma written_written (x : Json) : x.written.written = x.written :=
  (written_eq_self_iff _).mpr (finite_written x)

lemma writtenMembers_written (ms : Keyed Json) :
    writtenMembers (writtenMembers ms) = writtenMembers ms :=
  (writtenMembers_eq_self_iff _).mpr (finiteMembers_written ms)

mutual

theorem distinct_written : ∀ x : Json, x.distinct = true → x.written.distinct = true
  | .null, _ | .bool _, _ | .int _, _ | .str _, _ => rfl
  | .float x, _ => by
    rw [written]
    split <;> rfl
  | .arr xs, h => distinctItems_written xs h
  | .obj ms, h => by
    rw [distinct, Bool.and_eq_true] at h
    rw [written, distinct, Bool.and_eq_true]
    refine ⟨?_, distinctMembers_written ms h.2⟩
    simpa [keys_writtenMembers] using h.1

theorem distinctItems_written : ∀ xs : List Json, distinctItems xs = true →
    distinctItems (writtenItems xs) = true
  | [], _ => rfl
  | x :: xs, h => by
    rw [distinctItems, Bool.and_eq_true] at h
    rw [writtenItems, distinctItems, distinct_written x h.1, distinctItems_written xs h.2]
    rfl

theorem distinctMembers_written : ∀ ms : List (String × Json), distinctMembers ms = true →
    distinctMembers (writtenMembers ms) = true
  | [], _ => rfl
  | (_, x) :: ms, h => by
    rw [distinctMembers, Bool.and_eq_true] at h
    rw [writtenMembers, distinctMembers, distinct_written x h.1, distinctMembers_written ms h.2]
    rfl

end

end Json

end Workflow
