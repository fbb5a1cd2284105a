import Workflow.Proofs.Engine.Gated

/-! Which writes end a worker's key: reports alone, each of which is followed by where it sends the
entity of the run. -/

namespace Workflow.Engine

open Run (Lawful)

inductive Plain (p : Plan) (r : Run) : Write → Prop where
  | begun {key : String} : Plain p r (.move key (.toStatus .running))
  | moved {key : String} {u : NodeUpdate} {n : PlanNode} (hn : p.node? (r.template key) = some n)
      (hk : n.kind ≠ .worker) : Plain p r (.move key u)
  | spawned {key : String} {targets : List String} {items : List Json} {n : PlanNode}
      (hn : p.node? (r.template key) = some n) (hk : n.kind ≠ .worker) :
      Plain p r (.spawn key targets items)

inductive Recounts (p : Plan) (now : Instant) : Run → List Write → Prop where
  | nil {r} : Recounts p now r []
  | plain {r x ws} (hx : Plain p r x) (h : Recounts p now (r.after now x) ws) :
      Recounts p now r (x :: ws)
  | reported {r key c n ws} (hs : r.Has key .running) (hn : p.node? (r.template key) = some n)
      (h : Recounts p now (r.update now key (reported c)) ws) :
      Recounts p now r
        (.move key (reported c) :: (movementNotes now (r.update now key (reported c)) n c ++ ws))

variable {p : Plan} {now : Instant} {r : Run} {n : PlanNode} {key : String} {input : Json}
  {source : Status} {ws xs : List Write} {o : Outcome} {m : Message} {queue : List Message}

lemma Recounts.append (h : Recounts p now r ws) (h' : Recounts p now (r.afterAll now ws) xs) :
    Recounts p now r (ws ++ xs) := by
  induction h with
  | nil => exact h'
  | plain hx _ ih => exact .plain hx (ih h')
  | @reported r key c n ws hs hn _ ih =>
    rw [Run.afterAll_cons, Run.afterAll_append, afterAll_notes movementNotes_kind] at h'
    rw [List.cons_append, List.append_assoc]
    exact .reported hs hn (ih h')

namespace Worked

lemma recounts (h : Worked p r n key input ws o) (hn : p.node? (r.template key) = some n) :
    Recounts p now r ws := by
  cases h with
  | sent => exact .nil
  | parked hk | unsplit hk | whole hk | rejected hk | uncollected hk | collected hk =>
    exact .plain (.moved hn (by simp [hk])) .nil
  | split hk => exact .plain (.spawned hn (by simp [hk])) .nil

end Worked

lemma Started.recounts (h : Started p now r n key input source ws o)
    (hn : p.node? (r.template key) = some n) : Recounts p now r ws := by
  cases h with
  | skipped => exact .nil
  | worked _ hw => exact .plain .begun (hw.recounts (by rwa [Run.Sound.template_update]))

lemma Interrupted.recounts (h : Interrupted now r n key source ws) : Recounts p now r ws := by
  cases h with
  | unclaimed => exact .nil
  | claimed => exact .plain .begun .nil

section Messages

variable (hwf : p.WellFormed) (hso : r.Sound p)
include hwf hso

lemma FiredSome.recounts {snap : Run} {mapping : Mapping} {l : List String} {t : String}
    (h : FiredSome p now snap n mapping r l ws) (hn : p.node? t = some n)
    (hl : ∀ k ∈ l, k ∈ Keyed.keys r.states ∧ r.template k = t) : Recounts p now r ws :=
  h.induct hwf hso hn hl (fun _ => .nil) Interrupted.recounts
    fun _ hn' hw ih => (hw.recounts hn').append ih

lemma Handled.recounts (hforms : Forms p r) (h : Handled p now r m ws o) :
    Recounts p now r ws := by
  cases h with
  | walked | strayed | missing | hollow | ignored | reconciled => exact .nil
  | instances hn hi hne hm hf =>
    exact hf.firedSome.recounts hwf hso hn fun k hk => hso.known_instanceText hk
  | whole hn hi hin hs =>
    refine hs.recounts ?_
    rwa [hso.template_node (Plan.mem_nodeIds_iff.mpr ⟨_, hn⟩)]
  | reported hs hnotes hmoved =>
    obtain ⟨n, hn, rfl⟩ := hmoved
    simpa using Recounts.reported hs hn .nil
  -- Only forms wait for a person, and so the key that is completed is no worker's.
  | resumed hs =>
    obtain ⟨n, hn, hk⟩ := hforms _ hs
    exact .plain .begun (.plain (.moved (by rwa [Run.after, Run.Sound.template_update])
      (by simp [hk])) .nil)
  | retried hs hst hn hin hw => exact hw.recounts hn

lemma Faulted.recounts (h : Faulted p now r m ws) : Recounts p now r ws := by
  cases h with
  | unwritten => exact .nil
  | instances hn hi hm hf => exact hf.recounts hwf hso hn fun k hk => hso.known_instanceText hk
  | whole _ _ hs => exact hs.recounts
  | resumed => exact .plain .begun .nil
  | retried _ hs => exact hs.recounts

lemma Advanced.recounts (hforms : Forms p r) (h : Advanced p now r queue ws) :
    Recounts p now r ws := by
  induction h with
  | stopped => exact .nil
  | faulted _ hm => exact hm.recounts hwf hso
  | next _ hm hl _ ih =>
    exact (hm.recounts hwf hso hforms).append
      (ih (hso.afterAll hwf.child_mem hl) (forms_afterAll hwf hso hforms hl))

end Messages

end Workflow.Engine
