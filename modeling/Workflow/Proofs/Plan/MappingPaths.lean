import Workflow.Proofs.Engine.Evaluate

/-! Paths of edge mappings: what the check of a canvas reads in them, and what they pick out of an
output. -/

namespace Workflow

namespace Json

variable {members : Keyed Json} {path : String}

lemma segments_ne_nil (path : String) : segments path ≠ [] := by
  rw [segments, Text.parts, ne_eq, List.map_eq_nil_iff]
  exact Text.splitOn_ne_nil _ _

@[simp] lemma descend_null (segs : List String) : descend .null segs = .ok .null := by
  induction segs with
  | nil => rfl
  | cons s segs ih => exact ih

lemma descend_member (members : Keyed Json) (name : String) (rest : List String) :
    (Json.obj members).descend (name :: rest) =
      match Keyed.find? members name with
      | none => .ok .null
      | some x => x.descend rest := by
  cases h : Keyed.find? members name with
  | none => simp [descend, child, h, bind, Except.bind]
  | some x => simp [descend, child, h, bind, Except.bind]

end Json

namespace Validation

open Json

def checkedPath (path : String) : List String :=
  match checkedSegments path with
  | "output" :: next :: rest => next :: rest
  | parts => parts

lemma startOutput_eq (path : String) :
    startOutput (checkedSegments path) = (checkedPath path).head?.getD "" := by
  unfold startOutput checkedPath
  split <;> simp_all

lemma checkedPath_ne_nil (path : String) : checkedPath path ≠ [] := by
  unfold checkedPath
  split
  · simp
  · exact segments_ne_nil _

lemma starts_declared {edge input path source : String} {outputs : Keyed OutputSchema}
    (h : checkPath edge input path source (some outputs) = []) :
    ∃ head rest, checkedPath path = head :: rest ∧ head ∈ Keyed.keys outputs := by
  obtain ⟨head, rest, hpath⟩ := List.exists_cons_of_ne_nil (checkedPath_ne_nil path)
  refine ⟨head, rest, hpath, ?_⟩
  have hstart : startOutput (checkedSegments path) = head := by simp [startOutput_eq, hpath]
  unfold checkPath at h
  split at h
  · simp at h
  · split at h
    · simp at h
    · simp only [hstart] at h
      split at h
      · exact Keyed.has_iff_mem_keys.mp ‹_›
      · simp at h

lemma outputSegments_eq {path : String} (hb : Text.trimBlank path = path) (output : Json) :
    outputSegments output path =
      if output.hasMember "output" then segments path else checkedPath path := by
  rw [outputSegments, checkedPath, checkedSegments, hb]
  split
  · rename_i next rest hs
    simp [hs]
  · simp

lemma segments_cases {path : String} (hb : Text.trimBlank path = path) :
    segments path = "output" :: checkedPath path ∨ segments path = checkedPath path := by
  rw [checkedPath, checkedSegments, hb]
  split
  · rename_i next rest hs
    exact .inl hs
  · exact .inr rfl

end Validation

namespace Canvas

open Json Validation

variable {c : Canvas} {catalogue : Catalogue} {e : CanvasEdge} {source : CanvasNode}
  {outputs : Keyed OutputSchema} {input path : String}

lemma nodeMap_of_nodup (hn : (c.nodes.map (·.id)).Nodup) :
    c.nodeMap = c.nodes.map fun n => (n.id, n) := by
  apply Keyed.ofPairs_of_nodup
  simpa [Keyed.keys, Function.comp_def] using hn

lemma find?_nodeMap (hn : (c.nodes.map (·.id)).Nodup) (hs : source ∈ c.nodes) :
    Keyed.find? c.nodeMap source.id = some source := by
  rw [nodeMap_of_nodup hn]
  refine Keyed.find?_of_mem ?_ (List.mem_map_of_mem (f := fun n => (n.id, n)) hs)
  simpa [Keyed.keys, Function.comp_def] using hn

lemma exists_target (hf : c.findings catalogue = []) (he : e ∈ c.edges) :
    ∃ n ∈ c.nodes, n.id = e.target := by
  simp only [findings, checkStructure, List.append_eq_nil_iff, List.flatMap_eq_nil_iff] at hf
  have hends := hf.1.1.1.1.1.1.2 e he
  simp only [danglingEnds, List.map_eq_nil_iff, List.filter_eq_nil_iff] at hends
  simpa using hends ("target", e.target) (by simp)

lemma checkPath_of_findings (hf : c.findings catalogue = []) (he : e ∈ c.edges)
    (hs : source ∈ c.nodes) (hid : source.id = e.source) (hp : (input, path) ∈ e.mapping) :
    checkPath e.id input path source.id (source.declaredOutputs catalogue) = [] := by
  have hn := nodup_of_duplicateNodes (checks_of_findings hf).1
  obtain ⟨target, ht, htid⟩ := exists_target hf he
  have hmappings : checkMappings c catalogue = [] := by
    simp only [findings, List.append_eq_nil_iff] at hf
    exact hf.1.1.2
  have hedge := List.flatMap_eq_nil_iff.mp hmappings e he
  rw [checkMapping, ← hid, ← htid, find?_nodeMap hn hs, find?_nodeMap hn ht] at hedge
  have hentry := List.flatMap_eq_nil_iff.mp hedge _ hp
  exact (List.append_eq_nil_iff.mp hentry).2

theorem mapping_path_resolves (hf : c.findings catalogue = []) (he : e ∈ c.edges)
    (hs : source ∈ c.nodes) (hid : source.id = e.source)
    (hd : source.declaredOutputs catalogue = some outputs) (hp : (input, path) ∈ e.mapping)
    (hb : Text.trimBlank path = path) (members : Keyed Json) :
    ∃ head rest, checkedPath path = head :: rest ∧ head ∈ Keyed.keys outputs ∧
      (∀ inner, segments path = "output" :: head :: rest →
        Keyed.find? members "output" = some inner →
          (Json.obj members).resolveOutput path = inner.descend (head :: rest)) ∧
      ((segments path = "output" :: head :: rest → Keyed.find? members "output" = none) →
        (Json.obj members).resolveOutput path =
          match Keyed.find? members head with
          | none => .ok .null
          | some x => x.descend rest) := by
  have hcheck := checkPath_of_findings hf he hs hid hp
  rw [hd] at hcheck
  obtain ⟨head, rest, hpath, hmem⟩ := starts_declared hcheck
  have hsegments := outputSegments_eq hb (.obj members)
  refine ⟨head, rest, hpath, hmem, ?_, ?_⟩
  · intro inner hlead hinner
    rw [resolveOutput, hsegments, if_pos (by simp [hasMember, Keyed.has, hinner]), hlead,
      descend_member, hinner]
  · intro hnone
    have hread : outputSegments (.obj members) path = checkedPath path := by
      rw [hsegments]
      split
      · rename_i hmember
        rcases segments_cases hb with hlead | hplain
        · rw [hpath] at hlead
          simp [hasMember, Keyed.has, hnone hlead] at hmember
        · exact hplain
      · rfl
    rw [resolveOutput, hread, hpath, descend_member]

def namedOutputs (path : String) : Canvas where
  nodes? := some [
    { CanvasNode.bare "a" .worker [] with
      data? := some { NodeData.empty with
        config? := some [("webhook_url", .str "http://worker")]
        outputs? := some (some [("output", ⟨none, none⟩), ("x", ⟨none, none⟩)]) } },
    .bare "b" .worker [("webhook_url", .str "http://worker")]]
  edges? := some [.bare "a" "b" [("in", path)]]

theorem element_of_declared_output : (namedOutputs "output.x.0").findings [] = [] ∧
    checkedPath "output.x.0" = ["x", "0"] ∧
    (Json.obj [("x", .arr [.int 7])]).resolveOutput "output.x.0" = .ok (.int 7) := by
  have hf : (namedOutputs "output.x.0").findings [] = [] :=
    (compile_eq_ok (compile_of_checks (by decide +kernel) (by decide +kernel)
      (by decide +kernel))).1
  have hread : checkedPath "output.x.0" = ["x", "0"] := by decide +kernel
  have hentry : ("in", "output.x.0") ∈ (CanvasEdge.bare "a" "b" [("in", "output.x.0")]).mapping :=
    List.mem_cons_self
  obtain ⟨head, rest, hpath, -, -, hvalue⟩ := mapping_path_resolves hf List.mem_cons_self
    List.mem_cons_self rfl rfl hentry (by decide +kernel) [("x", .arr [.int 7])]
  obtain ⟨rfl, rfl⟩ : "x" = head ∧ ["0"] = rest := by simpa [hread] using hpath
  exact ⟨hf, hread, hvalue fun _ => rfl⟩

theorem output_member_preferred :
    (namedOutputs "output.x").findings [] = [] ∧ checkedPath "output.x" = ["x"] ∧
    (Json.obj [("output", .obj [("x", .int 1)]), ("x", .int 2)]).resolveOutput "output.x" =
      .ok (.int 1) ∧
    (namedOutputs " x").findings [] = [] ∧ checkedPath " x" = ["x"] ∧
    (Json.obj [("x", .int 2)]).resolveOutput " x" = .ok .null := by
  -- An output under the name `output` is looked into, though the check has read on past it; and
  -- blanks around a path count at run time.
  have hlead : (namedOutputs "output.x").findings [] = [] :=
    (compile_eq_ok (compile_of_checks (by decide +kernel) (by decide +kernel)
      (by decide +kernel))).1
  have hpadded : (namedOutputs " x").findings [] = [] :=
    (compile_eq_ok (compile_of_checks (by decide +kernel) (by decide +kernel)
      (by decide +kernel))).1
  exact ⟨hlead, by decide +kernel, rfl, hpadded, by decide +kernel, rfl⟩

end Canvas

end Workflow
