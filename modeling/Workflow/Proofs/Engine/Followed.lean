import Workflow.Proofs.Engine.Entries

/-! What drained queues keep of a row together with its entries holds along the whole course of the
run. -/

namespace Workflow.Engine

def Follows (p : Plan) (J : Run → List Event → Prop) : Prop :=
  ∀ {now : Instant} {r : Run} {queue : List Message} {ws : List Write} {log : List Event},
    r.Sound p → Forms p r → Advanced p now r queue ws → J r log →
    J (r.afterAll now ws) (log ++ r.entriesOf now ws)

structure Followed (p : Plan) (id : String) (J : Run → List Event → Prop) (w : World) (r : Run) :
    Prop where
  hosts : w.Hosts id p r
  sound : r.Sound p
  forms : Forms p r
  holds : J r (w.store.entries id)

variable {p : Plan} {id : String} {J : Run → List Event → Prop} {e : Engine} {r r₀ : Run}
  {w w' w₀ : World} {queue : List Message} {agenda left : List (List Message)}

lemma forms_newRun {v : FlowVersion} {t : Trigger} {entityId : Option String} {now : Instant} :
    Forms v.plan (newRun id v t entityId now) := fun _ hw => absurd (has_newRun hw) (by simp)

section Steps

variable (hwf : p.WellFormed) (hJ : Follows p J)
include hwf hJ

lemma Followed.step (h : Followed p id J w r)
    (hs : (∃ failures, e.stepAndDeliver id queue w = .ok failures w') ∨
      ∃ f, e.stepAndDeliver id queue w = .error f w') : ∃ r', Followed p id J w' r' := by
  obtain ⟨ws, qs, hadv, rfl, _⟩ := stepAndDeliver_advances hwf h.hosts h.sound hs
  have hown := (hadv.recounts hwf h.sound h.forms).owns
  have hentries : (e.handOver (w.recordAll id ws) qs).store.entries id =
      w.store.entries id ++ r.entriesOf w.now ws :=
    (World.entries_recordAll h.hosts hown).trans (by rw [if_pos rfl])
  exact ⟨_, hosts_handOver (h.hosts.recordAll ws), h.sound.afterAll hwf.child_mem hadv.lawful,
    forms_afterAll hwf h.sound h.forms hadv.lawful, hentries ▸ hJ h.sound h.forms hadv h.holds⟩

lemma Reaches.followed (hr : Reaches e id agenda w left w') (h : ∃ r, Followed p id J w r) :
    ∃ r, Followed p id J w' r := by
  induction hr with
  | refl => exact h
  | step hs _ ih =>
    obtain ⟨r, h⟩ := h
    exact ih (h.step hwf hJ (.inl ⟨_, hs⟩))

lemma Breaks.followed (hb : Breaks e id agenda w w') (h : ∃ r, Followed p id J w r) :
    ∃ r, Followed p id J w' r := by
  obtain ⟨left, mid, hr, hend⟩ := hb
  obtain ⟨r, hmid⟩ := hr.followed hwf hJ h
  rcases hend with rfl | ⟨_, _, f, _, hs⟩
  · exact ⟨r, hmid⟩
  · exact hmid.step hwf hJ (.inr ⟨f, hs⟩)

lemma Followed.operation {op : Operation} (ho : op.opening w = some (id, queue, w₀))
    (h : Followed p id J w₀ r) : ∃ r', Followed p id J (op.after e w) r' := by
  rcases Operation.advance_after ho with hadv | ⟨f, hadv⟩
  · exact (advance_ok hadv).followed hwf hJ ⟨r, h⟩
  · exact (advance_error hadv).followed hwf hJ ⟨r, h⟩

theorem Course.followed (h : Course p id r₀ w)
    (hborn : ∀ now, J r₀ [Store.runStarted now r₀]) :
    ∃ r, Tracked p id r₀ w r ∧ Followed p id J w r := by
  suffices hf : ∃ r, Followed p id J w r by
    obtain ⟨r, ht⟩ := h.tracked hwf
    obtain ⟨r', hf⟩ := hf
    obtain rfl := Option.some.inj (ht.hosts.row.symm.trans hf.hosts.row)
    exact ⟨r, ht, hf⟩
  induction h with
  | @started e versionId v trigger entityId input w s hv hp hr h₀ hid hc hnew =>
    subst hp h₀ hid
    obtain ⟨hnone, _⟩ := Store.createRun_ok hc
    have ho : Operation.opening w (.start versionId trigger entityId input) =
        some ((created w v trigger entityId input).id, v.plan.entryNodes.map .fire,
          withCreated w (created w v trigger entityId input)) := by
      simp [Operation.opening, hv, hc]
    refine Followed.operation hwf hJ ho
      ⟨hosts_withCreated hv hr hnone, newRun_sound hwf _ _ _ _, forms_newRun, ?_⟩
    rw [entries_withCreated, if_pos rfl, Store.entries, hnew]
    exact hborn w.now
  | called _ _ ih =>
    obtain ⟨r, hf⟩ := ih
    exact Followed.operation hwf hJ rfl hf
  | @elsewhere w w' h hrow hv hlog hr ih =>
    obtain ⟨r, hf⟩ := ih
    obtain ⟨r', ht⟩ := (Course.elsewhere h hrow hv hlog hr).tracked hwf
    obtain rfl := Option.some.inj (ht.hosts.row.symm.trans (hrow.trans hf.hosts.row))
    have hentries : w'.store.entries id = w.store.entries id := by
      rw [Store.entries, Store.entries, hlog]
    exact ⟨r', ht.hosts, hf.sound, hf.forms, hentries ▸ hf.holds⟩

end Steps

end Workflow.Engine
