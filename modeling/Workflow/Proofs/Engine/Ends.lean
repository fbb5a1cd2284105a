import Workflow.Proofs.Store.Write

/-! How an action on behalf of a run ends: with which writes, and with which result or failure. -/

namespace Workflow

variable {α β : Type} {id : String} {w : World} {x : Action α} {f : Failure}
  {P P' : List Write → α → Prop} {B B' : Failure → List Write → Prop}

def Ends (id : String) (x : Action α) (w : World) (P : List Write → α → Prop)
    (B : Failure → List Write → Prop) : Prop :=
  match x w with
  | .ok a w' => ∃ ws, w' = w.recordAll id ws ∧ P ws a
  | .error f w' => ∃ ws, w' = w.recordAll id ws ∧ B f ws

namespace Ends

lemma of_ok {a : α} (ws : List Write) (h : x w = .ok a (w.recordAll id ws)) (hp : P ws a) :
    Ends id x w P B := by
  rw [Ends, h]
  exact ⟨ws, rfl, hp⟩

lemma of_error (ws : List Write) (h : x w = .error f (w.recordAll id ws)) (hb : B f ws) :
    Ends id x w P B := by
  rw [Ends, h]
  exact ⟨ws, rfl, hb⟩

lemma ok {a : α} {w' : World} (h : Ends id x w P B) (hx : x w = .ok a w') :
    ∃ ws, w' = w.recordAll id ws ∧ P ws a := by rwa [Ends, hx] at h

lemma error {w' : World} (h : Ends id x w P B) (hx : x w = .error f w') :
    ∃ ws, w' = w.recordAll id ws ∧ B f ws := by rwa [Ends, hx] at h

lemma cases (h : Ends id x w P B) :
    (∃ ws a, x w = .ok a (w.recordAll id ws) ∧ P ws a) ∨
      ∃ ws f, x w = .error f (w.recordAll id ws) ∧ B f ws := by
  cases hx : x w with
  | ok a w' =>
    obtain ⟨ws, rfl, hp⟩ := h.ok hx
    exact .inl ⟨ws, a, rfl, hp⟩
  | error f w' =>
    obtain ⟨ws, rfl, hb⟩ := h.error hx
    exact .inr ⟨ws, f, rfl, hb⟩

lemma mono (h : Ends id x w P B) (hp : ∀ ws a, P ws a → P' ws a) (hb : ∀ f ws, B f ws → B' f ws) :
    Ends id x w P' B' := by
  rcases h.cases with ⟨ws, a, hx, h⟩ | ⟨ws, f, hx, h⟩
  · exact of_ok ws hx (hp ws a h)
  · exact of_error ws hx (hb f ws h)

lemma pure {a : α} (hp : P [] a) : Ends id (Pure.pure a : Action α) w P B := of_ok [] rfl hp

lemma throw (hb : B f []) : Ends id (throw f : Action α) w P B := of_error [] rfl hb

lemma bind {g : α → Action β} {Q : List Write → β → Prop} {C : Failure → List Write → Prop}
    (h : Ends id x w P B)
    (hg : ∀ ws a, P ws a →
      Ends id (g a) (w.recordAll id ws) (fun xs b => Q (ws ++ xs) b) fun f xs => C f (ws ++ xs))
    (hb : ∀ f ws, B f ws → C f ws) : Ends id (x >>= g) w Q C := by
  rcases h.cases with ⟨ws, a, hx, hp⟩ | ⟨ws, f, hx, h⟩
  · rcases (hg ws a hp).cases with ⟨xs, b, hy, hq⟩ | ⟨xs, f, hy, hc⟩
    · exact of_ok (ws ++ xs) (by rw [Action.bind_of_ok hx, hy, World.recordAll_append]) hq
    · exact of_error (ws ++ xs) (by rw [Action.bind_of_ok hx, hy, World.recordAll_append]) hc
  · exact of_error ws (Action.bind_of_error hx) (hb f ws h)

section Step

variable {g : α → Action β} {a : α} {Q : List Write → β → Prop} {C : Failure → List Write → Prop}

lemma bind_write (ws : List Write) (hx : x w = .ok a (w.recordAll id ws))
    (hg : Ends id (g a) (w.recordAll id ws) (fun xs b => Q (ws ++ xs) b)
      fun f xs => C f (ws ++ xs)) :
    Ends id (x >>= g) w Q C := by
  rw [Ends, Action.bind_of_ok hx]
  rcases hg.cases with ⟨xs, b, hy, hq⟩ | ⟨xs, f, hy, hc⟩
  · rw [hy]
    exact ⟨ws ++ xs, World.recordAll_append.symm, hq⟩
  · rw [hy]
    exact ⟨ws ++ xs, World.recordAll_append.symm, hc⟩

lemma bind_read (hx : x w = .ok a w) (hg : Ends id (g a) w Q C) : Ends id (x >>= g) w Q C :=
  bind_write [] hx hg

lemma bind_lift {r : Except Failure α} (h : r = .ok a) (hg : Ends id (g a) w Q C) :
    Ends id (World.lift r >>= g) w Q C := bind_read (Action.lift_ok h) hg

lemma bind_error (hx : x w = .error f w) (hc : C f []) : Ends id (x >>= g) w Q C :=
  of_error [] (Action.bind_of_error hx) hc

lemma bind_lift_error {r : Except Failure α} (h : r = .error f) (hc : C f []) :
    Ends id (World.lift r >>= g) w Q C := bind_error (Action.lift_error h) hc

end Step

lemma tryCatch {g : Failure → Action α} (h : Ends id x w P B)
    (hg : ∀ f ws, B f ws →
      Ends id (g f) (w.recordAll id ws) (fun xs a => P (ws ++ xs) a)
        fun f' xs => B' f' (ws ++ xs)) :
    Ends id (tryCatch x g) w P B' := by
  rcases h.cases with ⟨ws, a, hx, hp⟩ | ⟨ws, f, hx, h⟩
  · exact of_ok ws (by rw [Action.tryCatch_apply, hx]) hp
  · rcases (hg f ws h).cases with ⟨xs, b, hy, hq⟩ | ⟨xs, f', hy, hc⟩
    · exact of_ok (ws ++ xs)
        (by rw [Action.tryCatch_apply, hx, World.recordAll_append]; exact hy) hq
    · exact of_error (ws ++ xs)
        (by rw [Action.tryCatch_apply, hx, World.recordAll_append]; exact hy) hc

end Ends

end Workflow
