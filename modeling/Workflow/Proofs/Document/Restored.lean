import Mathlib.Data.List.Pairwise
import Workflow.Document.View
import Workflow.Proofs.Json.Written

/-! What readers give back of values from their stored views. A record's fields are found again
where no two of them share a name and no further member takes the name of a field. -/

namespace Workflow

variable {α β : Type} {b : Bool}

deriving instance DecidableEq for Checked

namespace Checked

@[simp] lemma map_ok (f : α → β) (a : α) : f <$> (ok a : Checked α) = .ok (f a) := rfl

@[simp] lemma seq_ok (f : α → β) (a : α) : (ok f : Checked (α → β)) <*> ok a = .ok (f a) := rfl

lemma map_eq_ok {f : α → β} {x : Checked α} {y : β} :
    f <$> x = .ok y ↔ ∃ a, x = .ok a ∧ f a = y := by
  cases x with
  | ok a => simp
  | refused is => exact ⟨nofun, fun ⟨_, h, _⟩ => nomatch h⟩

lemma seq_eq_ok {f : Checked (α → β)} {x : Checked α} {y : β} :
    f <*> x = .ok y ↔ ∃ g a, f = .ok g ∧ x = .ok a ∧ g a = y := by
  cases f with
  | ok g =>
    cases x with
    | ok a => simp
    | refused is => exact ⟨nofun, fun ⟨_, _, _, h, _⟩ => nomatch h⟩
  | refused is =>
    refine ⟨fun h => ?_, fun ⟨_, _, h, _⟩ => nomatch h⟩
    cases x <;> cases h

@[simp] lemma pure_eq (a : α) : (pure a : Checked α) = .ok a := rfl

@[simp] lemma under_ok (step : Step) (a : α) : (ok a).under step = .ok a := rfl

lemma under_eq_ok {step : Step} {x : Checked α} {a : α} : x.under step = .ok a ↔ x = .ok a := by
  cases x <;> simp [under]

end Checked

class Named.Lawful (α : Type) [Named α] : Prop where
  ofName?_name : ∀ a : α, Named.ofName? (Named.name a) = some a

lemma FieldName.find?_eq_or (f : FieldName) (ms : Keyed Json) :
    f.find? ms = (Keyed.find? ms f.label).or (Keyed.find? ms f.name) := by
  rw [FieldName.find?]
  cases Keyed.find? ms f.label <;> rfl

namespace Reader

def Restores (read : Reader α) (b : Bool) (view : α → View) (kept : α → α) (a : α) : Prop :=
  read ((view a).stored b) = .ok (kept a)

def Strict (read : Reader α) : Prop := ∀ a, read .null ≠ .ok a

variable {read : Reader α} {view : α → View} {kept : α → α}

lemma text_restores (s : String) : Restores text b .text id s := rfl

lemma boolean_restores (x : Bool) : Restores boolean b (fun y => .plain (.bool y)) id x := rfl

lemma number_restores (x : Floating) : Restores number b .number .written x := rfl

lemma text_strict : Strict text := nofun

lemma number_strict : Strict number := nofun

lemma mapping_strict : Strict (mapping read) := nofun

lemma record_strict {name : String} {build : Keyed Json → Checked α} :
    Strict (record name build) := nofun

section Named

variable [Named α] [Named.Lawful α]

lemma enumerated_restores (a : α) : Restores (enumerated α) b .named id a := by
  simp [Restores, View.named, View.text, View.stored, enumerated, Named.Lawful.ofName?_name]

lemma literal_restores (a : α) : Restores (literal α) b .named id a := by
  simp [Restores, View.named, View.text, View.stored, literal, Named.Lawful.ofName?_name]

omit [Named.Lawful α] in
lemma literal_strict : Strict (literal α) := nofun

end Named

lemma nullable_restores {a : Option α} (hs : Strict read)
    (h : ∀ x ∈ a, Restores read b view kept x) :
    Restores (nullable read) b (.nullable view) (Option.map kept) a := by
  cases a with
  | none => rfl
  | some x =>
    have hx : read ((view x).stored b) = .ok (kept x) := h x rfl
    have hne : (view x).stored b ≠ .null := fun hn => hs _ (hn ▸ hx)
    change nullable read ((view x).stored b) = .ok (some (kept x))
    rw [nullable]
    · simp [hx]
    · exact hne

lemma itemsFrom_stored {xs : List α} (h : ∀ x ∈ xs, Restores read b view kept x) (i : Nat) :
    itemsFrom read i (View.storedItems b (xs.map view)) = .ok (xs.map kept) := by
  induction xs generalizing i with
  | nil => rfl
  | cons x xs ih =>
    obtain ⟨hx, hxs⟩ := List.forall_mem_cons.mp h
    have hread : read ((view x).stored b) = .ok (kept x) := hx
    simp [View.storedItems, itemsFrom, hread, ih hxs]

lemma list_restores {xs : List α} (h : ∀ x ∈ xs, Restores read b view kept x) :
    Restores (list read) b (.listOf view) (List.map kept) xs := itemsFrom_stored h 0

lemma entries_stored {m : Keyed α} (h : ∀ e ∈ m, Restores read b view kept e.2) :
    entries read (View.storedEntries b (m.map fun e => (e.1, view e.2))) =
      .ok (Keyed.mapValues kept m) := by
  induction m with
  | nil => rfl
  | cons e m ih =>
    obtain ⟨he, hm⟩ := List.forall_mem_cons.mp h
    have hread : read ((view e.2).stored b) = .ok (kept e.2) := he
    simp [View.storedEntries, entries, hread, ih hm, Keyed.mapValues]

lemma mapping_restores {m : Keyed α} (h : ∀ e ∈ m, Restores read b view kept e.2) :
    Restores (mapping read) b (.mappingOf view) (Keyed.mapValues kept) m := entries_stored h

lemma entries_any (m : Keyed Json) : entries any m = .ok m := by
  induction m with
  | nil => rfl
  | cons e m ih =>
    have hany : any e.2 = .ok e.2 := rfl
    simp [entries, hany, ih]

lemma object_restores (m : Keyed Json) : Restores object b .object Json.writtenMembers m :=
  entries_any _

lemma record_eq_ok {name : String} {build : Keyed Json → Checked α} {x : Json} {a : α}
    (h : record name build x = .ok a) : ∃ ms, x = .obj ms ∧ build ms = .ok a := by
  cases x with
  | obj ms => exact ⟨ms, rfl, h⟩
  | _ => cases h

lemma list_eq_ok {x : Json} {as : List α} (h : list read x = .ok as) :
    ∃ xs, x = .arr xs ∧ itemsFrom read 0 xs = .ok as := by
  cases x with
  | arr xs => exact ⟨xs, rfl, h⟩
  | _ => cases h

lemma itemsFrom_eq_ok {i : Nat} {xs : List Json} {as : List α} (h : itemsFrom read i xs = .ok as) :
    ∀ a ∈ as, ∃ x ∈ xs, read x = .ok a := by
  induction xs generalizing i as with
  | nil =>
    cases h
    simp
  | cons x xs ih =>
    simp only [itemsFrom, Checked.seq_eq_ok, Checked.map_eq_ok, Checked.under_eq_ok] at h
    obtain ⟨_, rest, ⟨a, ha, rfl⟩, hrest, rfl⟩ := h
    refine List.forall_mem_cons.mpr ⟨⟨x, List.mem_cons_self, ha⟩, fun a ha => ?_⟩
    obtain ⟨y, hy, hread⟩ := ih hrest a ha
    exact ⟨y, List.mem_cons_of_mem _ hy, hread⟩

lemma find?_of_given {ms : Keyed Json} {f : FieldName} {a : Option α}
    (h : given ms f read = .ok a) (ha : a.isSome = false) : f.find? ms = none := by
  cases hf : f.find? ms with
  | none => rfl
  | some x =>
    simp only [given, hf, Checked.map_eq_ok] at h
    obtain ⟨y, _, rfl⟩ := h
    cases ha

lemma exists_of_find? {ms : Keyed Json} {f : FieldName} {x : Json} (h : f.find? ms = some x) :
    ∃ k, (k, x) ∈ ms := by
  rw [FieldName.find?_eq_or, Option.or_eq_some_iff] at h
  rcases h with h | ⟨_, h⟩
  · exact ⟨_, Keyed.mem_of_find? h⟩
  · exact ⟨_, Keyed.mem_of_find? h⟩

lemma exists_of_required {ms : Keyed Json} {f : FieldName} {a : α}
    (h : required ms f read = .ok a) : ∃ e ∈ ms, read e.2 = .ok a := by
  cases hf : f.find? ms with
  | none =>
    rw [required, hf] at h
    cases h
  | some x =>
    obtain ⟨k, hk⟩ := exists_of_find? hf
    simp only [required, hf, Checked.under_eq_ok] at h
    exact ⟨(k, x), hk, h⟩

lemma exists_of_given {ms : Keyed Json} {f : FieldName} {a : α}
    (h : given ms f read = .ok (some a)) : ∃ e ∈ ms, read e.2 = .ok a := by
  cases hf : f.find? ms with
  | none => simp [given, hf] at h
  | some x =>
    obtain ⟨k, hk⟩ := exists_of_find? hf
    simp only [given, hf, Checked.map_eq_ok, Checked.under_eq_ok, Option.some.injEq] at h
    obtain ⟨_, hread, rfl⟩ := h
    exact ⟨(k, x), hk, hread⟩

lemma nullable_eq_ok {x : Json} {a : α} (h : nullable read x = .ok (some a)) : read x = .ok a := by
  unfold nullable at h
  split at h
  · cases h
  · obtain ⟨_, hx, he⟩ := Checked.map_eq_ok.mp h
    exact Option.some.inj he ▸ hx

end Reader

namespace FieldName

def Apart (f g : FieldName) : Prop :=
  f.label ≠ g.label ∧ f.label ≠ g.name ∧ f.name ≠ g.label ∧ f.name ≠ g.name

instance : DecidableRel Apart := fun f g => inferInstanceAs (Decidable
  (f.label ≠ g.label ∧ f.label ≠ g.name ∧ f.name ≠ g.label ∧ f.name ≠ g.name))

lemma Apart.symm {f g : FieldName} (h : f.Apart g) : g.Apart f :=
  ⟨h.1.symm, h.2.2.1.symm, h.2.1.symm, h.2.2.2.symm⟩

def key (b : Bool) (f : FieldName) : String := if b then f.label else f.name

lemma Apart.key_ne {f g : FieldName} (h : f.Apart g) : f.key b ≠ g.key b := by
  cases b with
  | true => exact h.1
  | false => exact h.2.2.2

end FieldName

namespace View

variable {v : View} {f : FieldName} {g : Bool} {w : View} {k : String} {x : Json}

def fields : View → List (FieldName × Bool × View)
  | .record fields _ => fields
  | _ => []

def extras : View → Keyed Json
  | .record _ extras => extras
  | _ => []

def members (b : Bool) (v : View) : Keyed Json :=
  Keyed.merge (storedFields b v.fields) (Json.writtenMembers v.extras)

structure Fits (b : Bool) (v : View) : Prop where
  apart : (v.fields.map Prod.fst).Pairwise FieldName.Apart
  nodup : (Keyed.keys v.extras).Nodup
  label : ∀ e ∈ v.fields, e.1.label ∉ Keyed.keys v.extras
  name : ∀ e ∈ v.fields, b = false ∨ e.2.1 = false → e.1.name ∉ Keyed.keys v.extras

lemma Fits.of_closed (hx : v.extras = []) (h : (v.fields.map Prod.fst).Pairwise FieldName.Apart) :
    v.Fits b where
  apart := h
  nodup := by simp [hx, Keyed.keys]
  label := by simp [hx, Keyed.keys]
  name := by simp [hx, Keyed.keys]

lemma mem_storedFields {fs : List (FieldName × Bool × View)} :
    (k, x) ∈ storedFields b fs ↔ ∃ f w, (f, true, w) ∈ fs ∧ k = f.key b ∧ x = w.stored b := by
  induction fs with
  | nil => simp [storedFields]
  | cons e fs ih =>
    obtain ⟨f, g, w⟩ := e
    cases g with
    | true =>
      simp only [storedFields, ↓reduceIte, List.mem_cons, Prod.mk.injEq, ih]
      constructor
      · rintro (⟨hk, hx⟩ | ⟨f', w', hmem, hk, hx⟩)
        · exact ⟨f, w, .inl ⟨rfl, trivial, rfl⟩, hk, hx⟩
        · exact ⟨f', w', .inr hmem, hk, hx⟩
      · rintro ⟨f', w', ⟨rfl, _, rfl⟩ | hmem, hk, hx⟩
        · exact .inl ⟨hk, hx⟩
        · exact .inr ⟨f', w', hmem, hk, hx⟩
    | false => simp [storedFields, ih]

lemma keys_storedFields {fs : List (FieldName × Bool × View)} :
    Keyed.keys (storedFields b fs) = (fs.filter (·.2.1)).map (·.1.key b) := by
  induction fs with
  | nil => rfl
  | cons e fs ih =>
    obtain ⟨f, g, w⟩ := e
    simp only [Keyed.keys] at ih
    cases g <;> simp [storedFields, Keyed.keys, FieldName.key, ih]

namespace Fits

variable (h : v.Fits b)
include h

lemma eq_of_key {f' : FieldName} {g' : Bool} {w' : View} (he : (f, g, w) ∈ v.fields)
    (he' : (f', g', w') ∈ v.fields) (hk : f'.key b = f.label ∨ f'.key b = f.name) :
    g' = g ∧ w' = w := by
  by_contra hne
  have hdiff : ((f', g', w') : FieldName × Bool × View) ≠ (f, g, w) := by
    rintro heq
    obtain ⟨rfl, rfl, rfl⟩ := heq
    exact hne ⟨rfl, rfl⟩
  have hsymm : Std.Symm fun e e' : FieldName × Bool × View => e.1.Apart e'.1 :=
    ⟨fun _ _ => FieldName.Apart.symm⟩
  obtain ⟨hll, hln, hnl, hnn⟩ := (List.pairwise_map.mp h.apart).forall he' he hdiff
  cases b with
  | true => exact hk.elim hll hln
  | false => exact hk.elim hnl hnn

lemma nodup_keys : (Keyed.keys (storedFields b v.fields)).Nodup := by
  rw [keys_storedFields]
  refine List.pairwise_map.mpr (((List.pairwise_map.mp h.apart).filter _).imp fun hapart => ?_)
  exact hapart.key_ne

lemma members_eq : v.members b = storedFields b v.fields ++ Json.writtenMembers v.extras := by
  apply Keyed.merge_of_nodup
  rw [Json.keys_writtenMembers]
  refine List.Nodup.append h.nodup_keys h.nodup fun k hk hx => ?_
  obtain ⟨⟨_, x⟩, hmem, rfl⟩ := List.mem_map.mp hk
  obtain ⟨f, w, he, rfl, _⟩ := mem_storedFields.mp hmem
  cases b with
  | true => exact h.label _ he hx
  | false => exact h.name _ he (.inl rfl) hx

lemma find?_key (he : (f, true, w) ∈ v.fields) :
    Keyed.find? (storedFields b v.fields) (f.key b) = some (w.stored b) :=
  Keyed.find?_of_mem h.nodup_keys (mem_storedFields.mpr ⟨f, w, he, rfl, rfl⟩)

lemma given_of_find? (he : (f, g, w) ∈ v.fields) (hk : k = f.label ∨ k = f.name)
    (hx : Keyed.find? (storedFields b v.fields) k = some x) : g = true ∧ x = w.stored b := by
  obtain ⟨f', w', he', rfl, rfl⟩ := mem_storedFields.mp (Keyed.mem_of_find? hx)
  obtain ⟨rfl, rfl⟩ := h.eq_of_key he he' hk
  exact ⟨rfl, rfl⟩

lemma find?_label (he : (f, g, w) ∈ v.fields) :
    Keyed.find? (v.members b) f.label = Keyed.find? (storedFields b v.fields) f.label := by
  have hlabel : f.label ∉ Keyed.keys (Json.writtenMembers v.extras) := by
    rw [Json.keys_writtenMembers]
    exact h.label _ he
  rw [h.members_eq, Keyed.find?_append, Keyed.find?_eq_none_iff.mpr hlabel, Option.or_none]

lemma find?_field (he : (f, g, w) ∈ v.fields) :
    f.find? (v.members b) = if g then some (w.stored b) else none := by
  rw [FieldName.find?_eq_or, h.find?_label he]
  cases hl : Keyed.find? (storedFields b v.fields) f.label with
  | some x =>
    obtain ⟨rfl, rfl⟩ := h.given_of_find? he (.inl rfl) hl
    rfl
  | none =>
    rw [Option.none_or, h.members_eq, Keyed.find?_append]
    cases g with
    | false =>
      have hnone : Keyed.find? (storedFields b v.fields) f.name = none := by
        by_contra hne
        obtain ⟨x, hx⟩ := Option.ne_none_iff_exists'.mp hne
        cases (h.given_of_find? he (.inr rfl) hx).1
      have hname : f.name ∉ Keyed.keys (Json.writtenMembers v.extras) := by
        rw [Json.keys_writtenMembers]
        exact h.name _ he (.inr rfl)
      rw [hnone, Keyed.find?_eq_none_iff.mpr hname]
      rfl
    | true =>
      have hkey := h.find?_key he
      cases b with
      | true => simp [FieldName.key, hl] at hkey
      | false =>
        rw [FieldName.key, if_neg (by simp)] at hkey
        rw [hkey]
        rfl

lemma taken_eq (hb : b = true) (he : (f, g, w) ∈ v.fields) :
    f.taken (v.members b) = if g then f.label else f.name := by
  subst hb
  have hlabel : Keyed.has (v.members true) f.label = g := by
    rw [Keyed.has, h.find?_label he]
    cases g with
    | true =>
      have hkey : Keyed.find? (storedFields true v.fields) f.label = some (w.stored true) :=
        h.find?_key he
      rw [hkey]
      rfl
    | false =>
      by_contra hsome
      obtain ⟨x, hx⟩ := Option.isSome_iff_exists.mp (Bool.not_eq_false _ ▸ hsome)
      cases (h.given_of_find? he (.inl rfl) hx).1
  rw [FieldName.taken, hlabel]

lemma extras_eq (hb : b = true) :
    Reader.extras (v.members b) (v.fields.map Prod.fst) = Json.writtenMembers v.extras := by
  subst hb
  have hstored : (storedFields true v.fields).filter
      (fun e => !((v.fields.map Prod.fst).map (·.taken (v.members true))).contains e.1) = [] := by
    refine List.filter_eq_nil_iff.mpr fun e he => ?_
    obtain ⟨f, w, hmem, hk, _⟩ := mem_storedFields.mp (show (e.1, e.2) ∈ _ from he)
    have htaken : f.taken (v.members true) = e.1 := (h.taken_eq rfl hmem).trans hk.symm
    have hin : e.1 ∈ (v.fields.map Prod.fst).map (·.taken (v.members true)) :=
      List.mem_map.mpr ⟨f, List.mem_map.mpr ⟨_, hmem, rfl⟩, htaken⟩
    simpa using hin
  have hextras : (Json.writtenMembers v.extras).filter
      (fun e => !((v.fields.map Prod.fst).map (·.taken (v.members true))).contains e.1) =
        Json.writtenMembers v.extras := by
    refine List.filter_eq_self.mpr fun e he => ?_
    have hkey : e.1 ∈ Keyed.keys v.extras := by
      rw [← Json.keys_writtenMembers]
      exact List.mem_map_of_mem he
    simp only [List.contains_eq_mem, Bool.not_eq_true', decide_eq_false_iff_not, List.map_map,
      List.mem_map, not_exists, not_and]
    rintro ⟨f, g, w⟩ hmem htaken
    rw [Function.comp_apply, h.taken_eq rfl hmem] at htaken
    cases g with
    | true =>
      have hlabel : f.label = e.1 := htaken
      exact h.label _ hmem (hlabel ▸ hkey)
    | false =>
      have hname : f.name = e.1 := htaken
      exact h.name _ hmem (.inr rfl) (hname ▸ hkey)
  rw [Reader.extras, Keyed.without, h.members_eq, List.filter_append]
  rw [← h.members_eq, hstored, hextras, List.nil_append]

end Fits

lemma not_taken {ms : Keyed Json} {fs : List FieldName} (hf : f ∈ fs)
    (h : k ∈ Keyed.keys (Reader.extras ms fs)) : k ∈ Keyed.keys ms ∧ k ≠ f.taken ms := by
  obtain ⟨e, he, rfl⟩ := List.mem_map.mp h
  obtain ⟨he, hk⟩ := List.mem_filter.mp he
  refine ⟨List.mem_map_of_mem he, fun heq => ?_⟩
  simp only [List.contains_eq_mem, Bool.not_eq_true', decide_eq_false_iff_not] at hk
  exact hk (heq ▸ List.mem_map_of_mem hf)

lemma Fits.of_read {ms : Keyed Json} (hn : (Keyed.keys ms).Nodup)
    (ha : (v.fields.map Prod.fst).Pairwise FieldName.Apart)
    (hx : v.extras = Reader.extras ms (v.fields.map Prod.fst))
    (hnone : ∀ e ∈ v.fields, e.2.1 = false → e.1.find? ms = none) : v.Fits true where
  apart := ha
  nodup := hx ▸ hn.sublist (List.Sublist.map _ List.filter_sublist)
  label e he hk := by
    obtain ⟨hmem, hne⟩ := not_taken (List.mem_map_of_mem he) (hx ▸ hk)
    rw [FieldName.taken, if_pos (Keyed.has_iff_mem_keys.mpr hmem)] at hne
    exact hne rfl
  name e he hg hk := by
    obtain ⟨hmem, _⟩ := not_taken (List.mem_map_of_mem he) (hx ▸ hk)
    have hfind := hnone e he (hg.resolve_left (by simp))
    rw [FieldName.find?_eq_or, Option.or_eq_none_iff] at hfind
    exact Keyed.find?_eq_none_iff.mp hfind.2 hmem

namespace Fits

variable {view : α → View} {read : Reader α} {kept : α → α} (h : v.Fits b)
include h

lemma required {a : α} (i : ℕ) (hi : v.fields[i]? = some (field f (view a)))
    (hr : read.Restores b view kept a) : Reader.required (v.members b) f read = .ok (kept a) := by
  have hread : read ((view a).stored b) = .ok (kept a) := hr
  rw [Reader.required, h.find?_field (List.mem_of_getElem? hi)]
  simp [hread]

lemma given_kept {a : Option α} {default : View} (i : ℕ)
    (hi : v.fields[i]? = some (fieldOf f view a default))
    (hr : ∀ x ∈ a, read.Restores b view kept x) :
    Reader.given (v.members b) f read = .ok (a.map kept) := by
  rw [Reader.given, h.find?_field (List.mem_of_getElem? hi)]
  cases a with
  | none => rfl
  | some x =>
    have hread : read ((view x).stored b) = .ok (kept x) := hr x rfl
    simp [hread]

lemma given {a : Option α} {default : View} (i : ℕ)
    (hi : v.fields[i]? = some (fieldOf f view a default))
    (hr : ∀ x ∈ a, read.Restores b view id x) : Reader.given (v.members b) f read = .ok a := by
  rw [h.given_kept i hi hr, Option.map_id_apply]

end Fits

end View

end Workflow
