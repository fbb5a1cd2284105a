import Mathlib.Tactic.Lemma
import Workflow.World

namespace Workflow

namespace Action

variable {α β : Type} {w w' : World} {f : Failure} {b : β}

lemma bind_apply (x : Action α) (g : α → Action β) (w : World) :
    (x >>= g) w =
      match x w with
      | .ok a w' => g a w'
      | .error f w' => .error f w' := by
  change EStateM.bind x g w = _
  unfold EStateM.bind
  cases x w <;> rfl

lemma bind_of_ok {x : Action α} {g : α → Action β} {a : α} (h : x w = .ok a w') :
    (x >>= g) w = g a w' := by rw [bind_apply, h]

lemma bind_of_error {x : Action α} {g : α → Action β} (h : x w = .error f w') :
    (x >>= g) w = .error f w' := by rw [bind_apply, h]

lemma bind_congr {x y : Action α} (g : α → Action β) (h : x w = y w') :
    (x >>= g) w = (y >>= g) w' := by rw [bind_apply, bind_apply, h]

lemma bind_eq_ok {x : Action α} {g : α → Action β} :
    (x >>= g) w = .ok b w' ↔ ∃ a w₁, x w = .ok a w₁ ∧ g a w₁ = .ok b w' := by
  rw [bind_apply]
  cases hx : x w with
  | ok a w₁ =>
    constructor
    · intro h
      exact ⟨a, w₁, rfl, h⟩
    · rintro ⟨_, _, he, h⟩
      obtain ⟨rfl, rfl⟩ := EStateM.Result.ok.inj he
      exact h
  | error f w₁ => simp

lemma bind_eq_error {x : Action α} {g : α → Action β} :
    (x >>= g) w = .error f w' ↔
      x w = .error f w' ∨ ∃ a w₁, x w = .ok a w₁ ∧ g a w₁ = .error f w' := by
  rw [bind_apply]
  cases hx : x w with
  | ok a w₁ =>
    constructor
    · intro h
      exact .inr ⟨a, w₁, rfl, h⟩
    · rintro (he | ⟨_, _, he, h⟩)
      · cases he
      · obtain ⟨rfl, rfl⟩ := EStateM.Result.ok.inj he
        exact h
  | error f w₁ => simp

@[simp] lemma pure_apply (a : α) : (pure a : Action α) w = .ok a w := rfl

@[simp] lemma throw_apply (f : Failure) : (throw f : Action α) w = .error f w := rfl

@[simp] lemma get_apply : (get : Action World) w = .ok w w := rfl

@[simp] lemma set_apply (w₁ : World) : (set w₁ : Action PUnit) w = .ok ⟨⟩ w₁ := rfl

lemma tryCatch_apply (x : Action α) (g : Failure → Action α) (w : World) :
    (tryCatch x g) w =
      match x w with
      | .ok a w' => .ok a w'
      | .error f w' => g f w' := by
  change EStateM.tryCatch x g w = _
  unfold EStateM.tryCatch
  cases x w <;> rfl

lemma map_apply (x : Action α) (g : α → β) (w : World) :
    (g <$> x) w =
      match x w with
      | .ok a w' => .ok (g a) w'
      | .error f w' => .error f w' := by
  change EStateM.map g x w = _
  unfold EStateM.map
  cases x w <;> rfl

lemma map_eq_ok {x : Action α} {g : α → β} :
    (g <$> x) w = .ok b w' ↔ ∃ a, x w = .ok a w' ∧ g a = b := by
  rw [map_apply]
  cases x w with
  | ok a w₁ =>
    constructor
    · intro h
      obtain ⟨rfl, rfl⟩ := EStateM.Result.ok.inj h
      exact ⟨a, rfl, rfl⟩
    · rintro ⟨_, he, rfl⟩
      obtain ⟨rfl, rfl⟩ := EStateM.Result.ok.inj he
      rfl
  | error f w₁ => simp

lemma map_eq_error {x : Action α} {g : α → β} :
    (g <$> x) w = .error f w' ↔ x w = .error f w' := by
  rw [map_apply]
  cases x w <;> simp

lemma lift_ok {r : Except Failure α} {a : α} (h : r = .ok a) :
    World.lift r w = .ok a w := by rw [h]; rfl

lemma lift_error {r : Except Failure α} (h : r = .error f) :
    World.lift r w = .error f w := by rw [h]; rfl

end Action

end Workflow
