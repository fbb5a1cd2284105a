import Workflow.Proofs.Engine.Ledger

/-! Invariants of worlds: what steps, new rows and the clock keep holds after any operations, whether
they return or fail. -/

namespace Workflow.Engine

structure Persists (P : World → Prop) : Prop where
  sane : ∀ {w : World}, P w → w.Sane
  advanced : ∀ {e : Engine} {w : World} {id : String} {p : Plan} {r : Run} {queue : List Message}
    {ws : List Write} {qs : List Request}, P w → p.WellFormed → w.Hosts id p r → r.Sound p →
    Forms p r → Advanced p w.now r queue ws → P (e.handOver (w.recordAll id ws) qs)
  born : ∀ {w : World} {versionId : String} {v : FlowVersion} (trigger : Trigger)
    (entityId : Option String) (input : Option (Keyed Json)), P w →
    w.store.version? versionId = some v →
    w.store.run? (created w v trigger entityId input).id = none →
    P (withCreated w (created w v trigger entityId input))
  drawn : ∀ {w : World}, P w → P { w with issued := w.issued + 1 }
  waited : ∀ {w : World} (now : Instant), P w → P { w with now }

variable {P : World → Prop} {e : Engine} {id : String} {w w' : World} {queue : List Message}
  {agenda left : List (List Message)}

lemma stepAndDeliver_missing (hr : w.store.run? id = none)
    (hs : (∃ failures, e.stepAndDeliver id queue w = .ok failures w') ∨
      ∃ f, e.stepAndDeliver id queue w = .error f w') : w' = w := by
  have hempty : ∀ {qs w₁}, drain e.settings id queue w = .ok qs w₁ →
      w' = e.handOver w₁ qs → w' = w := by
    rintro qs w₁ hd rfl
    rw [drain_missing hr] at hd
    split at hd
    · obtain ⟨rfl, rfl⟩ := EStateM.Result.ok.inj hd
      simp only [handOver, sendings, List.append_nil]
    · cases hd
  rcases hs with ⟨failures, hs⟩ | ⟨f, hs⟩
  · obtain ⟨qs, w₁, hd, hdel⟩ := Action.bind_eq_ok.mp hs
    exact hempty hd (deliver_ok hdel).1
  · rcases Action.bind_eq_error.mp hs with hd | ⟨qs, w₁, hd, hdel⟩
    · rw [drain_missing hr] at hd
      split at hd
      · cases hd
      · exact (EStateM.Result.error.inj hd).2.symm
    · exact hempty hd (deliver_error hdel)

namespace Persists

variable (hp : Persists P)
include hp

lemma step (h : P w) (hs : (∃ failures, e.stepAndDeliver id queue w = .ok failures w') ∨
      ∃ f, e.stepAndDeliver id queue w = .error f w') : P w' := by
  cases hr : w.store.run? id with
  | none => rwa [stepAndDeliver_missing hr hs]
  | some r =>
    obtain ⟨v, hwf, hh, hso, hforms⟩ := (hp.sane h).hosts hr
    obtain ⟨ws, qs, hadv, rfl, _⟩ := stepAndDeliver_advances hwf hh hso hs
    exact hp.advanced h hwf hh hso hforms hadv

lemma reaches (hr : Reaches e id agenda w left w') (h : P w) : P w' := by
  induction hr with
  | refl => exact h
  | step hs _ ih => exact ih (hp.step h (.inl ⟨_, hs⟩))

lemma breaks (hb : Breaks e id agenda w w') (h : P w) : P w' := by
  obtain ⟨left, mid, hr, hend⟩ := hb
  have hmid := hp.reaches hr h
  rcases hend with rfl | ⟨_, _, f, _, hs⟩
  · exact hmid
  · exact hp.step hmid (.inr ⟨f, hs⟩)

lemma opened {op : Operation} {w₀ : World} (ho : op.opening w = some (id, queue, w₀)) (h : P w₀) :
    P (op.after e w) := by
  rcases Operation.advance_after ho with hadv | ⟨f, hadv⟩
  · exact hp.reaches (advance_ok hadv) h
  · exact hp.breaks (advance_error hadv) h

lemma operation (op : Operation) (h : P w) : P (op.after e w) := by
  cases op with
  | start versionId trigger entityId input =>
    cases hv : w.store.version? versionId with
    | none =>
      rw [Operation.after_eq (.inr ⟨_, Action.bind_of_error (startRun_missing hv)⟩)]
      exact h
    | some v =>
      rcases startRun_cases e trigger entityId input hv with ⟨f, _, hf⟩ | ⟨s, hc, hnone, _⟩
      · rw [Operation.after_eq (.inr ⟨f, Action.bind_of_error hf⟩)]
        exact hp.drawn h
      · have ho : (Operation.start versionId trigger entityId input).opening w =
            some ((created w v trigger entityId input).id, v.plan.entryNodes.map .fire,
              withCreated w (created w v trigger entityId input)) := by
          simp [Operation.opening, hv, hc]
        exact hp.opened ho (hp.born trigger entityId input h hv hnone)
  | call id c => exact hp.opened rfl h
  | wait now => exact hp.waited now h

theorem afterOperations (ops : List (Engine × Operation)) (h : P w) :
    P (afterOperations w ops) := by
  induction ops generalizing w with
  | nil => exact h
  | cons op rest ih => exact ih (hp.operation op.2 h)

end Persists

end Workflow.Engine
