import Workflow.Catalogue.Merge
import Workflow.Proofs.Document.Restored
import Workflow.Proofs.Json.Distinct

/-! Merging documents of worker types: what a merge leaves, when it is all or nothing, and what
several merges leave. -/

namespace Workflow

namespace Keyed

variable {α : Type} {m n : Keyed α} {k : String} {v : α}

lemma set_eq_self (h : find? m k = some v) : set m k v = m := by
  induction m with
  | nil => cases h
  | cons e m ih =>
    obtain ⟨j, w⟩ := e
    by_cases hj : j = k
    · simp only [find?, hj, if_true, Option.some.injEq] at h
      simp [set, hj, h]
    · simp only [find?, hj, if_false] at h
      simp [set, hj, ih h]

lemma merge_eq_self (h : ∀ e ∈ n, find? m e.1 = some e.2) : merge m n = m := by
  induction n with
  | nil => rfl
  | cons e n ih =>
    obtain ⟨he, hn⟩ := List.forall_mem_cons.mp h
    rw [merge, List.foldl_cons, set_eq_self he]
    exact ih hn

end Keyed

namespace Json

def members? : Json → Option (Keyed Json)
  | .obj members => some members
  | x => if x.isFalsy then some [] else none

lemma distinct_of_members? {x : Json} {members : Keyed Json} (hx : x.distinct = true)
    (h : x.members? = some members) : (Json.obj members).distinct = true := by
  cases x with
  | obj ms =>
    obtain rfl := Option.some.inj h
    exact hx
  | _ =>
    simp only [members?, Option.ite_none_right_eq_some, Option.some.injEq] at h
    obtain rfl := h.2
    rfl

end Json

lemma Reader.required_text {members : Keyed Json} {k s : String}
    (h : required members (.plain k) text = .ok s) : Keyed.find? members k = some (.str s) := by
  rw [required, FieldName.find?_eq_or, FieldName.plain] at h
  cases hf : Keyed.find? members k with
  | none => simp [hf, Checked.issue, Checked.under] at h
  | some x =>
    simp only [hf, Option.or_some, Checked.under_eq_ok] at h
    cases x <;> cases h
    rfl

namespace Catalogue

variable {file : String} {c : Catalogue} {type : String} {body document : Json}
  {types known rest : List (String × Json)} {found : List (String × WorkerType)} {w : WorkerType}

def Defines (file : String) (types : List (String × Json)) (found : List (String × WorkerType)) :
    Prop :=
  List.Forall₂ (fun e d => d.1 = e.1 ∧ definition file e.1 e.2 = .ok d.2) types found

lemma Defines.keys_eq (h : Defines file types found) : Keyed.keys found = Keyed.keys types := by
  induction h with
  | nil => rfl
  | cons hd _ ih =>
    simp only [Keyed.keys] at ih
    simp [Keyed.keys, hd.1, ih]

lemma Defines.mem (h : Defines file types found) {e : String × Json} (he : e ∈ types) :
    ∃ w, definition file e.1 e.2 = .ok w ∧ (e.1, w) ∈ found := by
  induction h with
  | nil => cases he
  | cons hd _ ih =>
    rcases List.mem_cons.mp he with rfl | he
    · exact ⟨_, hd.2, by simp [← hd.1]⟩
    · obtain ⟨w, hw, hmem⟩ := ih he
      exact ⟨w, hw, List.mem_cons_of_mem _ hmem⟩

lemma Defines.mem_of_found (h : Defines file types found) {d : String × WorkerType}
    (hd : d ∈ found) : ∃ e ∈ types, d.1 = e.1 ∧ definition file e.1 e.2 = .ok d.2 := by
  induction h with
  | nil => cases hd
  | cons he _ ih =>
    rcases List.mem_cons.mp hd with rfl | hd
    · exact ⟨_, List.mem_cons_self, he⟩
    · obtain ⟨e, hmem, he⟩ := ih hd
      exact ⟨e, List.mem_cons_of_mem _ hmem, he⟩

lemma exists_defines (h : ∀ e ∈ types, ∃ w, definition file e.1 e.2 = .ok w) :
    ∃ found, Defines file types found := by
  induction types with
  | nil => exact ⟨[], .nil⟩
  | cons e types ih =>
    obtain ⟨⟨w, hw⟩, hrest⟩ := List.forall_mem_cons.mp h
    obtain ⟨found, hfound⟩ := ih hrest
    exact ⟨(e.1, w) :: found, .cons ⟨rfl, hw⟩ hfound⟩

lemma mergeTypes_append (h : Defines file known found) :
    mergeTypes file c (known ++ rest) = mergeTypes file (Keyed.merge c found) rest := by
  induction h generalizing c with
  | nil => rfl
  | cons hd _ ih =>
    rw [List.cons_append, mergeTypes, hd.2]
    simpa [Keyed.merge, hd.1] using ih

lemma mergeTypes_cases (file : String) (types : List (String × Json)) :
    (∃ found, Defines file types found ∧
      ∀ c, mergeTypes file c types = ⟨Keyed.merge c found, none⟩) ∨
    ∃ known e rest found fault, types = known ++ e :: rest ∧ Defines file known found ∧
      definition file e.1 e.2 = .error fault ∧
      ∀ c, mergeTypes file c types = ⟨Keyed.merge c found, some fault⟩ := by
  induction types with
  | nil => exact .inl ⟨[], .nil, fun _ => rfl⟩
  | cons e types ih =>
    cases hd : definition file e.1 e.2 with
    | error fault =>
      exact .inr ⟨[], e, types, [], fault, rfl, .nil, hd,
        fun c => by simp [mergeTypes, hd, Keyed.merge]⟩
    | ok w =>
      have hcons : ∀ c, mergeTypes file c (e :: types) =
          mergeTypes file (Keyed.set c e.1 w) types := fun c => by rw [mergeTypes, hd]
      rcases ih with ⟨found, hf, he⟩ | ⟨known, f, rest, found, fault, rfl, hf, hfault, he⟩
      · exact .inl ⟨(e.1, w) :: found, .cons ⟨rfl, hd⟩ hf, fun c => (hcons c).trans (he _)⟩
      · exact .inr ⟨e :: known, f, rest, (e.1, w) :: found, fault, rfl, .cons ⟨rfl, hd⟩ hf, hfault,
          fun c => (hcons c).trans (he _)⟩

def givenId? (body : Json) : Option Json := body.members?.bind fun ms => Keyed.find? ms "id"

lemma definition_eq (file type : String) (body : Json) :
    definition file type body =
      match body.members? with
      | none => .error .bodyNotMapping
      | some members =>
        match WorkerType.read (.obj (Keyed.merge [("id", .str type)] members)) with
        | .ok w => .ok w
        | .refused issues => .error (.invalidType file type issues) := by
  cases body <;> rfl

lemma id_of_read {members : Keyed Json} (h : WorkerType.read (.obj members) = .ok w) :
    Keyed.find? members "id" = some (.str w.id) := by
  simp only [WorkerType.read, Reader.record, Checked.seq_eq_ok, Checked.map_eq_ok] at h
  obtain ⟨_, _, ⟨_, _, ⟨_, _, ⟨_, _, ⟨_, _, ⟨id, hid, rfl⟩, _, rfl⟩, _, rfl⟩, _, rfl⟩, _, rfl⟩, _,
    rfl⟩ := h
  exact Reader.required_text hid

lemma id_of_definition (hb : body.distinct = true) (h : definition file type body = .ok w) :
    .str w.id = (givenId? body).getD (.str type) := by
  rw [definition_eq] at h
  cases hm : body.members? with
  | none => simp [hm] at h
  | some members =>
    simp only [hm] at h
    split at h
    · rename_i v hread
      obtain rfl := Except.ok.inj h
      have hdistinct := Json.distinct_obj.mp (Json.distinct_of_members? hb hm)
      have hid := id_of_read hread
      rw [Keyed.find?_merge, Keyed.ofPairs_of_nodup hdistinct.1] at hid
      rw [givenId?, hm, Option.bind_some]
      cases hf : Keyed.find? members "id" <;> simp_all [Keyed.find?]
    · cases h

lemma id_eq_iff (hb : body.distinct = true) (h : definition file type body = .ok w) :
    w.id = type ↔ ∀ x, givenId? body = some x → x = .str type := by
  have hid := id_of_definition hb h
  cases hg : givenId? body with
  | none => simpa [hg] using hid
  | some x =>
    rw [hg, Option.getD_some] at hid
    simp [← hid]

lemma isTold_of_definition {fault : CatalogueFault} (h : definition file type body = .error fault) :
    fault.isTold = body.members?.isSome := by
  rw [definition_eq] at h
  cases hm : body.members? with
  | none =>
    rw [hm] at h
    obtain rfl := Except.error.inj h
    rfl
  | some members =>
    simp only [hm] at h
    split at h
    · cases h
    · obtain rfl := Except.error.inj h
      rfl

lemma mergeDocument_eq (file : String) (c : Catalogue) (document : Json) :
    mergeDocument file c document =
      match document.members? with
      | none => ⟨c, some .notADocument⟩
      | some members =>
        match (Keyed.find? members "workers").getD (.obj []) with
        | .obj types => mergeTypes file c types
        | _ => ⟨c, some (.notMapping file)⟩ := by
  cases document with
  | obj members => rfl
  | _ =>
    simp only [mergeDocument, Json.members?]
    split <;> rfl

def typesOf (document : Json) : List (String × Json) :=
  match document.members?.bind fun ms => Keyed.find? ms "workers" with
  | some (.obj types) => types
  | _ => []

/-- A merge takes all types, each under its own name, or is refused in so many words and leaves the
catalogue as it was. -/
def Merged.AllOrNothing (m : Merged) (c : Catalogue) (types : List (String × Json)) : Prop :=
  match m.fault with
  | none => (∀ e ∈ types, ∃ w, m.catalogue.get? e.1 = some w ∧ w.id = e.1) ∧
      ∀ t ∉ Keyed.keys types, m.catalogue.get? t = c.get? t
  | some fault => fault.isTold = true ∧ m.catalogue = c

/-- Every body defines its type and gives it no other name; or the catalogue has what the bodies
before the first faulty one define, and that one is not of a wrong kind altogether. -/
def Orderly (file : String) (c : Catalogue) (types : List (String × Json)) : Prop :=
  (∀ e ∈ types, (∃ w, definition file e.1 e.2 = .ok w) ∧
    ∀ x, givenId? e.2 = some x → x = .str e.1) ∨
  ∃ known e rest, types = known ++ e :: rest ∧
    (∀ d ∈ known, ∃ w, definition file d.1 d.2 = .ok w ∧ c.get? d.1 = some w) ∧
    (∃ fault, definition file e.1 e.2 = .error fault) ∧ e.2.members?.isSome = true

section Found

variable (h : Defines file types found)
include h

lemma get?_merge_of_mem (hn : (Keyed.keys types).Nodup) {e : String × Json} (he : e ∈ types) :
    ∃ w, definition file e.1 e.2 = .ok w ∧ get? (Keyed.merge c found) e.1 = some w := by
  obtain ⟨w, hw, hmem⟩ := h.mem he
  rw [← h.keys_eq] at hn
  refine ⟨w, hw, ?_⟩
  rw [get?, Keyed.find?_merge, Keyed.ofPairs_of_nodup hn, Keyed.find?_of_mem hn hmem]
  rfl

lemma get?_merge_of_not_mem (hn : (Keyed.keys types).Nodup) {t : String}
    (ht : t ∉ Keyed.keys types) : get? (Keyed.merge c found) t = get? c t := by
  rw [← h.keys_eq] at hn ht
  rw [get?, Keyed.find?_merge, Keyed.ofPairs_of_nodup hn, Keyed.find?_eq_none_iff.mpr ht]
  rfl

lemma merge_eq_self (hknown : ∀ e ∈ types, ∃ w, definition file e.1 e.2 = .ok w ∧
    c.get? e.1 = some w) : Keyed.merge c found = c := by
  refine Keyed.merge_eq_self fun d hd => ?_
  obtain ⟨e, he, hname, hdef⟩ := h.mem_of_found hd
  obtain ⟨w, hw, hget⟩ := hknown e he
  rw [hname, Except.ok.inj (hdef.symm.trans hw)]
  exact hget

end Found

lemma mergeTypes_allOrNothing_iff (hn : (Keyed.keys types).Nodup)
    (hd : ∀ e ∈ types, e.2.distinct = true) :
    (mergeTypes file c types).AllOrNothing c types ↔ Orderly file c types := by
  constructor
  · intro h
    rcases mergeTypes_cases file types with ⟨found, hf, he⟩ |
      ⟨known, e, rest, found, fault, rfl, hf, hfault, he⟩
    · rw [he] at h
      refine .inl fun e hmem => ?_
      obtain ⟨w, hw, hget⟩ := get?_merge_of_mem (c := c) hf hn hmem
      obtain ⟨v, hv, hid⟩ := h.1 e hmem
      obtain rfl : w = v := Option.some.inj (hget.symm.trans hv)
      exact ⟨⟨w, hw⟩, (id_eq_iff (hd e hmem) hw).mp hid⟩
    · rw [he] at h
      have hkn : (Keyed.keys known).Nodup :=
        hn.sublist ((List.sublist_append_left known _).map Prod.fst)
      refine .inr ⟨known, e, rest, rfl, fun d hmem => ?_, ⟨fault, hfault⟩, ?_⟩
      · obtain ⟨w, hw, hget⟩ := get?_merge_of_mem (c := c) hf hkn hmem
        exact ⟨w, hw, h.2 ▸ hget⟩
      · rw [← isTold_of_definition hfault]
        exact h.1
  · rintro (hall | ⟨known, e, rest, rfl, hknown, ⟨fault, hfault⟩, hkind⟩)
    · obtain ⟨found, hf⟩ := exists_defines fun e hmem => (hall e hmem).1
      have happ : mergeTypes file c (types ++ []) = mergeTypes file (Keyed.merge c found) [] :=
        mergeTypes_append hf
      have he : mergeTypes file c types = ⟨Keyed.merge c found, none⟩ := by
        simpa [mergeTypes] using happ
      rw [he]
      refine ⟨fun e hmem => ?_, fun t ht => get?_merge_of_not_mem hf hn ht⟩
      obtain ⟨w, hw, hget⟩ := get?_merge_of_mem (c := c) hf hn hmem
      exact ⟨w, hget, (id_eq_iff (hd e hmem) hw).mpr (hall e hmem).2⟩
    · obtain ⟨found, hf⟩ := exists_defines fun d hmem => (hknown d hmem).imp fun _ => And.left
      have he : mergeTypes file c (known ++ e :: rest) = ⟨c, some fault⟩ := by
        rw [mergeTypes_append hf, merge_eq_self hf hknown, mergeTypes, hfault]
      rw [he]
      exact ⟨(isTold_of_definition hfault).trans hkind, rfl⟩

lemma distinct_typesOf (h : document.distinct = true) :
    (Json.obj (typesOf document)).distinct = true := by
  unfold typesOf
  split
  · rename_i types hf
    obtain ⟨members, hm, hw⟩ := Option.bind_eq_some_iff.mp hf
    exact (Json.distinct_obj.mp (Json.distinct_of_members? h hm)).2 _ (Keyed.mem_of_find? hw)
  · rfl

lemma mergeDocument_cases (file : String) (document : Json) :
    (document.members?.isSome = true ∧
      ∀ c, mergeDocument file c document = mergeTypes file c (typesOf document)) ∨
    ∃ fault, fault.isTold = document.members?.isSome ∧ typesOf document = [] ∧
      ∀ c, mergeDocument file c document = ⟨c, some fault⟩ := by
  simp only [mergeDocument_eq, typesOf]
  cases document.members? with
  | none => exact .inr ⟨_, rfl, rfl, fun _ => rfl⟩
  | some members =>
    simp only [Option.bind_some, Option.isSome_some, true_and]
    cases Keyed.find? members "workers" with
    | none => exact .inl fun _ => rfl
    | some x =>
      cases x with
      | obj types => exact .inl fun _ => rfl
      | _ => exact .inr ⟨.notMapping file, rfl, rfl, fun _ => rfl⟩

lemma mergeDocument_allOrNothing_iff (h : document.distinct = true) :
    (mergeDocument file c document).AllOrNothing c (typesOf document) ↔
      document.members?.isSome = true ∧ Orderly file c (typesOf document) := by
  obtain ⟨hn, hd⟩ := Json.distinct_obj.mp (distinct_typesOf h)
  rcases mergeDocument_cases file document with ⟨hm, he⟩ | ⟨fault, htold, hnone, he⟩
  · rw [he, mergeTypes_allOrNothing_iff hn hd]
    exact (and_iff_right hm).symm
  · simp [he, hnone, Merged.AllOrNothing, Orderly, htold]

lemma exists_found (file : String) (document : Json) : ∃ known found,
    known.Sublist (typesOf document) ∧ Defines file known found ∧
    ∀ c, (mergeDocument file c document).catalogue = Keyed.merge c found := by
  rcases mergeDocument_cases file document with ⟨_, he⟩ | ⟨fault, _, _, he⟩
  · rcases mergeTypes_cases file (typesOf document) with ⟨found, hf, hc⟩ |
      ⟨known, e, rest, found, fault, htypes, hf, _, hc⟩
    · exact ⟨_, found, List.Sublist.refl _, hf, fun c => by rw [he, hc]⟩
    · refine ⟨known, found, htypes ▸ List.sublist_append_left known _, hf, fun c => ?_⟩
      rw [he, hc]
  · exact ⟨[], [], List.nil_sublist _, .nil, fun c => by rw [he]; rfl⟩

def mergeAll (c : Catalogue) (files : List (String × Json)) : Catalogue :=
  files.foldl (fun c f => (mergeDocument f.1 c f.2).catalogue) c

lemma get?_mergeDocument {t : String} : get? (mergeDocument file c document).catalogue t =
    (get? (mergeDocument file [] document).catalogue t).or (get? c t) := by
  obtain ⟨_, found, _, _, hc⟩ := exists_found file document
  rw [hc, hc, get?, Keyed.find?_merge]
  rfl

lemma get?_mergeAll (c : Catalogue) (files : List (String × Json)) (t : String) :
    get? (mergeAll c files) t =
      (files.reverse.findSome? fun f => get? (mergeDocument f.1 [] f.2).catalogue t).or
        (get? c t) := by
  induction files generalizing c with
  | nil => rfl
  | cons f files ih =>
    rw [mergeAll, List.foldl_cons]
    refine (ih _).trans ?_
    rw [get?_mergeDocument, List.reverse_cons, List.findSome?_append, Option.or_assoc]
    simp

def Titled (c : Catalogue) : Prop := ∀ t w, c.get? t = some w → w.id = t

lemma Titled.mergeDocument (hc : Titled c) (h : document.distinct = true)
    (hids : ∀ e ∈ typesOf document, ∀ x, givenId? e.2 = some x → x = .str e.1) :
    Titled (mergeDocument file c document).catalogue := by
  obtain ⟨known, found, hsub, hf, he⟩ := exists_found file document
  obtain ⟨hn, hd⟩ := Json.distinct_obj.mp (distinct_typesOf h)
  have hfound : (Keyed.keys found).Nodup := hf.keys_eq ▸ hn.sublist (hsub.map Prod.fst)
  intro t w ht
  rw [he, get?, Keyed.find?_merge, Keyed.ofPairs_of_nodup hfound, Option.or_eq_some_iff] at ht
  rcases ht with ht | ⟨_, ht⟩
  · obtain ⟨e, hmem, rfl, hdef⟩ := hf.mem_of_found (Keyed.mem_of_find? ht)
    have hmem := hsub.subset hmem
    exact (id_eq_iff (hd e hmem) hdef).mpr (hids e hmem)
  · exact hc t w ht

lemma Titled.mergeAll {files : List (String × Json)} (hc : Titled c)
    (h : ∀ f ∈ files, f.2.distinct = true ∧
      ∀ e ∈ typesOf f.2, ∀ x, givenId? e.2 = some x → x = .str e.1) :
    Titled (mergeAll c files) := by
  induction files generalizing c with
  | nil => exact hc
  | cons f files ih =>
    obtain ⟨⟨hdistinct, hids⟩, hrest⟩ := List.forall_mem_cons.mp h
    exact ih (hc.mergeDocument hdistinct hids) hrest

theorem merges_all_or_nothing_iff (c : Catalogue) (files : List (String × Json)) :
    (∀ (file : String) (document : Json), document.distinct = true →
      ((mergeDocument file c document).AllOrNothing c (typesOf document) ↔
        document.members?.isSome = true ∧ Orderly file c (typesOf document))) ∧
    (∀ t, get? (mergeAll c files) t =
      (files.reverse.findSome? fun f => get? (mergeDocument f.1 [] f.2).catalogue t).or
        (get? c t)) ∧
    (Titled c →
      (∀ f ∈ files, f.2.distinct = true ∧
        ∀ e ∈ typesOf f.2, ∀ x, givenId? e.2 = some x → x = .str e.1) →
      Titled (mergeAll c files)) :=
  ⟨fun _ _ => mergeDocument_allOrNothing_iff, get?_mergeAll c files, Titled.mergeAll⟩

def bare (id name : String) : WorkerType := ⟨id, name, "", [], [], []⟩

def ofBodies (types : List (String × Json)) : Json := .obj [("workers", .obj types)]

def faultySecond : Json :=
  ofBodies [("a", .obj [("name", .str "A")]), ("b", .obj [("input", .int 5)])]

theorem second_body_refused : faultySecond.distinct = true ∧
    (mergeDocument "workers" [("a", bare "a" "A")] faultySecond).AllOrNothing
      [("a", bare "a" "A")] (typesOf faultySecond) ∧
    get? (mergeAll [] [("first", ofBodies [("a", .null), ("b", .null)]), ("then", faultySecond)])
      "a" = some (bare "a" "A") ∧
    Titled
      (mergeAll [] [("first", ofBodies [("a", .null), ("b", .null)]), ("then", faultySecond)]) := by
  obtain ⟨hiff, -, -⟩ := merges_all_or_nothing_iff [("a", bare "a" "A")] []
  obtain ⟨-, hlast, htitled⟩ := merges_all_or_nothing_iff []
    [("first", ofBodies [("a", .null), ("b", .null)]), ("then", faultySecond)]
  have hdistinct : faultySecond.distinct = true := by decide +kernel
  refine ⟨hdistinct, (hiff "workers" _ hdistinct).mpr ⟨by decide, .inr ?_⟩, ?_, ?_⟩
  · refine ⟨[("a", .obj [("name", .str "A")])], ("b", .obj [("input", .int 5)]), [], rfl, ?_,
      ⟨_, rfl⟩, rfl⟩
    intro d hd
    rw [List.mem_singleton.mp hd]
    exact ⟨bare "a" "A", by decide +kernel, rfl⟩
  · rw [hlast]
    decide +kernel
  · exact htitled nofun (by decide +kernel)

def otherwiseNamed : Json := ofBodies [("a", .obj [("id", .str "b")])]

theorem faults_break_merges :
    ¬ (mergeDocument "workers" [] (.arr [.str "a"])).AllOrNothing [] (typesOf (.arr [.str "a"])) ∧
    ¬ (mergeDocument "workers" [] (ofBodies [("a", .arr [.str "x"])])).AllOrNothing []
      (typesOf (ofBodies [("a", .arr [.str "x"])])) ∧
    ¬ (mergeDocument "workers" [] otherwiseNamed).AllOrNothing [] (typesOf otherwiseNamed) ∧
    ¬ Titled (mergeAll [] [("workers", otherwiseNamed)]) ∧
    ¬ (mergeDocument "workers" [] faultySecond).AllOrNothing [] (typesOf faultySecond) := by
  have hother : mergeDocument "workers" [] otherwiseNamed = ⟨[("a", bare "b" "")], none⟩ := by
    decide +kernel
  have hsecond : (mergeDocument "workers" [] faultySecond).catalogue = [("a", bare "a" "A")] := by
    decide +kernel
  refine ⟨fun h => ?_, fun h => ?_, fun h => ?_, fun h => ?_, fun h => ?_⟩
  · exact absurd h.1 (by decide)
  · exact absurd h.1 (by decide)
  · rw [hother] at h
    obtain ⟨w, hw, hid⟩ := h.1 ("a", .obj [("id", .str "b")]) (by decide)
    obtain rfl := Option.some.inj hw
    exact absurd hid (by decide)
  · have hid := h "a" (bare "b" "") (by simp [mergeAll, hother, get?, Keyed.find?])
    exact absurd hid (by decide)
  · have hfault : ∃ fault, (mergeDocument "workers" [] faultySecond).fault = some fault := ⟨_, rfl⟩
    obtain ⟨fault, hfault⟩ := hfault
    rw [Merged.AllOrNothing, hfault, hsecond] at h
    exact absurd h.2 (by decide)

end Catalogue

end Workflow
