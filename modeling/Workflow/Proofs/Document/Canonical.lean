import Workflow.Proofs.Document.Respelled

/-! Views with one canonical form but for the order of members. -/

namespace Workflow

namespace View

mutual

def tidy : View → Bool
  | .plain x | .untyped x => x.distinct
  | .number _ => true
  | .list items => tidyItems items
  | .mapping entries => decide (Keyed.keys entries).Nodup && tidyEntries entries
  | .record fields extras =>
    decide (∀ b, (fields.map fun e => e.1.key b).Nodup) && tidyFields fields &&
      (Json.obj extras).distinct

def tidyItems : List View → Bool
  | [] => true
  | v :: vs => tidy v && tidyItems vs

def tidyEntries : List (String × View) → Bool
  | [] => true
  | (_, v) :: rest => tidy v && tidyEntries rest

def tidyFields : List (FieldName × Bool × View) → Bool
  | [] => true
  | (_, _, v) :: rest => tidy v && tidyFields rest

end

/-- The views have one canonical form but for the order of members. -/
structure Alike (v w : View) : Prop where
  isNull : v.isNull = w.isNull
  same : Json.Same v.canonical w.canonical
  left : v.tidy = true
  right : w.tidy = true

structure FieldAlike (d e : FieldName × Bool × View) : Prop where
  name : d.1 = e.1
  view : d.2.2.Alike e.2.2

structure MembersAlike (ms ns : Keyed Json) : Prop where
  same : Keyed.Same Json.Same ms ns
  left : (Json.obj ms).distinct = true
  right : (Json.obj ns).distinct = true

variable {α : Type} {view : α → View} {v w default : View} {f : FieldName} {x y : Json}
  {vs ws : List View} {m n : List (String × View)} {fs gs : List (FieldName × Bool × View)}
  {ms ns ls os : Keyed Json} {k : String}

namespace FieldAlike

lemma field (h : v.Alike w) : FieldAlike (View.field f v) (View.field f w) := ⟨rfl, h⟩

lemma fieldOf {a b : Option α} (h : Option.Rel (fun a b => (view a).Alike (view b)) a b)
    (hd : default.Alike default) :
    FieldAlike (View.fieldOf f view a default) (View.fieldOf f view b default) := by
  cases h with
  | none => exact ⟨rfl, hd⟩
  | some h => exact ⟨rfl, h⟩

end FieldAlike

lemma tidyItems_iff : tidyItems vs = true ↔ ∀ v ∈ vs, v.tidy = true := by
  induction vs <;> simp_all [tidyItems]

lemma tidyEntries_iff : tidyEntries m = true ↔ ∀ e ∈ m, e.2.tidy = true := by
  induction m with
  | nil => simp [tidyEntries]
  | cons e m ih => rw [tidyEntries, Bool.and_eq_true, ih, List.forall_mem_cons]

lemma tidyFields_iff : tidyFields fs = true ↔ ∀ e ∈ fs, e.2.2.tidy = true := by
  induction fs with
  | nil => simp [tidyFields]
  | cons e fs ih => rw [tidyFields, Bool.and_eq_true, ih, List.forall_mem_cons]

lemma tidy_mapping : (View.mapping m).tidy = true ↔
    (Keyed.keys m).Nodup ∧ ∀ e ∈ m, e.2.tidy = true := by
  rw [tidy, Bool.and_eq_true, decide_eq_true_iff, tidyEntries_iff]

lemma tidy_record : (View.record fs ms).tidy = true ↔ (∀ b, (fs.map fun e => e.1.key b).Nodup) ∧
    (∀ e ∈ fs, e.2.2.tidy = true) ∧ (Json.obj ms).distinct = true := by
  rw [tidy, Bool.and_eq_true, Bool.and_eq_true, decide_eq_true_iff, tidyFields_iff, and_assoc]

lemma canonicalItems_eq : canonicalItems vs = vs.map canonical := by
  induction vs with
  | nil => rfl
  | cons v vs ih => rw [canonicalItems, ih, List.map_cons]

lemma canonicalEntries_eq : canonicalEntries m = Keyed.mapValues canonical m := by
  induction m with
  | nil => rfl
  | cons e m ih =>
    rw [canonicalEntries, ih]
    rfl

lemma keys_canonicalFields :
    List.Sublist (Keyed.keys (canonicalFields fs)) (fs.map fun e => e.1.name) := by
  induction fs with
  | nil => exact .slnil
  | cons e fs ih =>
    rw [canonicalFields]
    split
    · exact ih.cons _
    · exact ih.cons_cons _

lemma distinct_list (h : ∀ v ∈ vs, v.canonical.distinct = true) :
    (View.list vs).canonical.distinct = true := by
  rw [canonical, canonicalItems_eq, Json.distinct_arr]
  exact List.forall_mem_map.mpr h

lemma distinct_mapping (hm : (Keyed.keys m).Nodup) (h : ∀ e ∈ m, e.2.canonical.distinct = true) :
    (View.mapping m).canonical.distinct = true := by
  rw [canonical, canonicalEntries_eq, Json.distinct_obj]
  exact ⟨by simpa [Keyed.keys, Keyed.mapValues, Function.comp_def] using hm,
    List.forall_mem_map.mpr h⟩

lemma distinct_canonicalFields (hn : (fs.map fun e => e.1.name).Nodup)
    (h : ∀ e ∈ fs, e.2.2.canonical.distinct = true) :
    (Json.obj (canonicalFields fs)).distinct = true := by
  refine Json.distinct_obj.mpr ⟨hn.sublist keys_canonicalFields, ?_⟩
  clear hn
  induction fs with
  | nil => exact nofun
  | cons e fs ih =>
    obtain ⟨he, hfs⟩ := List.forall_mem_cons.mp h
    rw [canonicalFields]
    split
    · exact ih hfs
    · exact List.forall_mem_cons.mpr ⟨he, ih hfs⟩

def nonNull (ms : Keyed Json) : Keyed Json := ms.filter fun e => !e.2.isNull

lemma distinct_nonNull (h : (Json.obj ms).distinct = true) :
    (Json.obj (nonNull ms)).distinct = true := by
  obtain ⟨hn, hms⟩ := Json.distinct_obj.mp h
  exact Json.distinct_obj.mpr ⟨hn.sublist (List.filter_sublist.map _),
    fun e he => hms e (List.mem_of_mem_filter he)⟩

lemma find?_nonNull (h : (Keyed.keys ms).Nodup) :
    Keyed.find? (nonNull ms) k = (Keyed.find? ms k).filter (!·.isNull) := by
  induction ms with
  | nil => rfl
  | cons e ms ih =>
    obtain ⟨he, hms⟩ := List.nodup_cons.mp h
    have hrest := ih hms
    rw [nonNull] at hrest ⊢
    rw [List.filter_cons, Keyed.find?]
    by_cases hk : e.1 = k
    · have hnone : Keyed.find? ms k = none := Keyed.find?_eq_none_iff.mpr (hk ▸ he)
      rw [if_pos hk, Option.filter_some]
      split
      · rw [Keyed.find?, if_pos hk]
      · rw [hrest, hnone, Option.filter_none]
    · rw [if_neg hk]
      split
      · rw [Keyed.find?, if_neg hk, hrest]
      · exact hrest

lemma distinct_merge (hms : (Json.obj ms).distinct = true) (hns : (Json.obj ns).distinct = true) :
    (Json.obj (Keyed.merge ms ns)).distinct = true := by
  obtain ⟨-, hvalues⟩ := Json.distinct_obj.mp hns
  clear hns
  induction ns generalizing ms with
  | nil => exact hms
  | cons e ns ih =>
    obtain ⟨he, hrest⟩ := List.forall_mem_cons.mp hvalues
    exact ih (Json.distinct_set hms he) hrest

lemma distinct_record (hn : (fs.map fun e => e.1.name).Nodup)
    (h : ∀ e ∈ fs, e.2.2.canonical.distinct = true) (hms : (Json.obj ms).distinct = true) :
    (View.record fs ms).canonical.distinct = true := by
  rw [canonical]
  exact distinct_merge (distinct_canonicalFields hn h)
    (Json.distinct_written _ (distinct_nonNull hms))

mutual

theorem distinct_canonical : ∀ v : View, v.tidy = true → v.canonical.distinct = true
  | .plain _, h => h
  | .number _, _ => rfl
  | .untyped x, h => Json.distinct_written x h
  | .list vs, h => distinct_list (distinct_canonicalItems vs h)
  | .mapping m, h => by
    rw [tidy, Bool.and_eq_true, decide_eq_true_iff] at h
    exact distinct_mapping h.1 (distinct_canonicalEntries m h.2)
  | .record fs ms, h => by
    rw [tidy, Bool.and_eq_true, Bool.and_eq_true, decide_eq_true_iff] at h
    exact distinct_record (h.1.1 false) (distinct_fields fs h.1.2) h.2

theorem distinct_canonicalItems : ∀ vs : List View, tidyItems vs = true →
    ∀ v ∈ vs, v.canonical.distinct = true
  | [], _ => nofun
  | v :: vs, h =>
    have ⟨hv, hvs⟩ := Bool.and_eq_true_iff.mp h
    List.forall_mem_cons.mpr ⟨distinct_canonical v hv, distinct_canonicalItems vs hvs⟩

theorem distinct_canonicalEntries : ∀ m : List (String × View), tidyEntries m = true →
    ∀ e ∈ m, e.2.canonical.distinct = true
  | [], _ => nofun
  | (_, v) :: m, h =>
    have ⟨hv, hm⟩ := Bool.and_eq_true_iff.mp h
    List.forall_mem_cons.mpr ⟨distinct_canonical v hv, distinct_canonicalEntries m hm⟩

theorem distinct_fields : ∀ fs : List (FieldName × Bool × View), tidyFields fs = true →
    ∀ e ∈ fs, e.2.2.canonical.distinct = true
  | [], _ => nofun
  | (_, _, v) :: fs, h =>
    have ⟨hv, hfs⟩ := Bool.and_eq_true_iff.mp h
    List.forall_mem_cons.mpr ⟨distinct_canonical v hv, distinct_fields fs hfs⟩

end

lemma same_merge (h : Keyed.Same Json.Same ms ls) (h' : Keyed.Same Json.Same ns os)
    (hns : (Keyed.keys ns).Nodup) (hos : (Keyed.keys os).Nodup) :
    Keyed.Same Json.Same (Keyed.merge ms ns) (Keyed.merge ls os) := by
  intro k
  rw [Keyed.find?_merge, Keyed.find?_merge, Keyed.ofPairs_of_nodup hns, Keyed.ofPairs_of_nodup hos]
  exact rel_or (h' k) (h k)

lemma same_canonicalFields (h : List.Forall₂ FieldAlike fs gs) :
    Keyed.Same Json.Same (canonicalFields fs) (canonicalFields gs) := by
  induction h with
  | nil => exact fun _ => .none
  | cons h _ ih =>
    intro k
    rw [canonicalFields, canonicalFields, h.name, h.view.isNull]
    split
    · exact ih k
    · rw [Keyed.find?, Keyed.find?]
      split
      · exact .some h.view.same
      · exact ih k

lemma same_nonNull (h : Keyed.Same Json.Same ms ns) (hms : (Keyed.keys ms).Nodup)
    (hns : (Keyed.keys ns).Nodup) : Keyed.Same Json.Same (nonNull ms) (nonNull ns) := by
  intro k
  rw [find?_nonNull hms, find?_nonNull hns]
  exact rel_filter (h k) fun x y hxy => by rw [hxy.isNull_eq]

lemma storedItems_eq {b : Bool} : storedItems b vs = vs.map (stored b) := by
  induction vs with
  | nil => rfl
  | cons v vs ih => rw [storedItems, ih, List.map_cons]

lemma storedEntries_eq {b : Bool} : storedEntries b m = Keyed.mapValues (stored b) m := by
  induction m with
  | nil => rfl
  | cons e m ih =>
    rw [storedEntries, ih]
    rfl

mutual

theorem distinct_stored (b : Bool) : ∀ v : View, v.tidy = true → (v.stored b).distinct = true
  | .plain _, h => h
  | .number _, _ => rfl
  | .untyped x, h => Json.distinct_written x h
  | .list vs, h => by
    rw [stored, storedItems_eq, Json.distinct_arr]
    exact List.forall_mem_map.mpr (distinct_storedItems b vs h)
  | .mapping m, h => by
    rw [tidy, Bool.and_eq_true, decide_eq_true_iff] at h
    rw [stored, storedEntries_eq, Json.distinct_obj, Keyed.keys_mapValues]
    exact ⟨h.1, List.forall_mem_map.mpr (distinct_storedEntries b m h.2)⟩
  | .record fs ms, h => by
    rw [tidy, Bool.and_eq_true, Bool.and_eq_true, decide_eq_true_iff] at h
    have hkeys : (Keyed.keys (storedFields b fs)).Nodup := by
      rw [keys_storedFields]
      exact (h.1.1 b).sublist (List.filter_sublist.map _)
    refine distinct_merge (Json.distinct_obj.mpr ⟨hkeys, fun e he => ?_⟩)
      (Json.distinct_written _ h.2)
    obtain ⟨f, w, hw, -, hx⟩ := mem_storedFields.mp (show (e.1, e.2) ∈ _ from he)
    exact hx ▸ distinct_storedFields b fs h.1.2 _ hw

theorem distinct_storedItems (b : Bool) : ∀ vs : List View, tidyItems vs = true →
    ∀ v ∈ vs, (v.stored b).distinct = true
  | [], _ => nofun
  | v :: vs, h =>
    have ⟨hv, hvs⟩ := Bool.and_eq_true_iff.mp h
    List.forall_mem_cons.mpr ⟨distinct_stored b v hv, distinct_storedItems b vs hvs⟩

theorem distinct_storedEntries (b : Bool) : ∀ m : List (String × View), tidyEntries m = true →
    ∀ e ∈ m, (e.2.stored b).distinct = true
  | [], _ => nofun
  | (_, v) :: m, h =>
    have ⟨hv, hm⟩ := Bool.and_eq_true_iff.mp h
    List.forall_mem_cons.mpr ⟨distinct_stored b v hv, distinct_storedEntries b m hm⟩

theorem distinct_storedFields (b : Bool) : ∀ fs : List (FieldName × Bool × View),
    tidyFields fs = true → ∀ e ∈ fs, (e.2.2.stored b).distinct = true
  | [], _ => nofun
  | (_, _, v) :: fs, h =>
    have ⟨hv, hfs⟩ := Bool.and_eq_true_iff.mp h
    List.forall_mem_cons.mpr ⟨distinct_stored b v hv, distinct_storedFields b fs hfs⟩

end

lemma MembersAlike.nonNull (h : MembersAlike ms ns) :
    MembersAlike (View.nonNull ms) (View.nonNull ns) where
  same := same_nonNull h.same (Json.distinct_obj.mp h.left).1 (Json.distinct_obj.mp h.right).1
  left := distinct_nonNull h.left
  right := distinct_nonNull h.right

lemma MembersAlike.empty : MembersAlike [] [] := ⟨fun _ => .none, rfl, rfl⟩

namespace Alike

lemma self (h : v.tidy = true) : v.Alike v := ⟨rfl, .refl _, h, h⟩

lemma plain (h : Json.Same x y) (hx : x.distinct = true) (hy : y.distinct = true) :
    (View.plain x).Alike (.plain y) where
  isNull := by cases h <;> rfl
  same := h
  left := hx
  right := hy

lemma untyped (h : Json.Same x y) (hx : x.distinct = true) (hy : y.distinct = true) :
    (View.untyped x).Alike (.untyped y) where
  isNull := by cases h <;> rfl
  same := h.written
  left := hx
  right := hy

lemma object (h : MembersAlike ms ns) : (View.object ms).Alike (.object ns) :=
  untyped (Json.same_obj h.same) h.left h.right

lemma list (h : List.Forall₂ Alike vs ws) : (View.list vs).Alike (.list ws) where
  isNull := rfl
  same := by
    rw [canonical, canonical, canonicalItems_eq, canonicalItems_eq]
    refine Json.same_arr ?_
    rw [List.forall₂_map_left_iff, List.forall₂_map_right_iff]
    exact h.imp fun _ _ h => h.same
  left := tidyItems_iff.mpr (forall_left h fun _ _ h => h.left)
  right := tidyItems_iff.mpr (forall_left h.flip fun _ _ h => h.right)

lemma mapping (h : Keyed.Same Alike m n) (hm : (Keyed.keys m).Nodup) (hn : (Keyed.keys n).Nodup) :
    (View.mapping m).Alike (.mapping n) where
  isNull := rfl
  same := by
    rw [canonical, canonical, canonicalEntries_eq, canonicalEntries_eq]
    refine Json.same_obj fun k => ?_
    rw [Keyed.find?_mapValues, Keyed.find?_mapValues]
    exact rel_map (h k) fun _ _ h => h.same
  left := tidy_mapping.mpr ⟨hm, fun e he => by
    obtain ⟨_, _, hw⟩ := h.exists_left hm he
    exact hw.left⟩
  right := tidy_mapping.mpr ⟨hn, fun e he => by
    obtain ⟨_, _, hv⟩ := h.flip.exists_left hn he
    exact hv.right⟩

lemma record (h : List.Forall₂ FieldAlike fs gs) (hn : ∀ b, (fs.map fun e => e.1.key b).Nodup)
    (hx : MembersAlike ms ns) : (View.record fs ms).Alike (.record gs ns) := by
  have hkey : ∀ b, (gs.map fun e => e.1.key b) = fs.map fun e => e.1.key b := by
    intro b
    have hsame : List.Forall₂ Eq (gs.map fun e => e.1.key b) (fs.map fun e => e.1.key b) := by
      rw [List.forall₂_map_left_iff, List.forall₂_map_right_iff]
      exact h.flip.imp fun _ _ h => by rw [h.name]
    rwa [List.forall₂_eq_eq_eq] at hsame
  have hkeys : (Keyed.keys (Json.writtenMembers (nonNull ms))).Nodup :=
    Json.keys_writtenMembers.symm ▸ (Json.distinct_obj.mp hx.nonNull.left).1
  have hkeys' : (Keyed.keys (Json.writtenMembers (nonNull ns))).Nodup :=
    Json.keys_writtenMembers.symm ▸ (Json.distinct_obj.mp hx.nonNull.right).1
  refine ⟨rfl, ?_, tidy_record.mpr ⟨hn, forall_left h fun _ _ h => h.view.left, hx.left⟩,
    tidy_record.mpr ⟨fun b => hkey b ▸ hn b, forall_left h.flip fun _ _ h => h.view.right, hx.right⟩⟩
  rw [canonical, canonical]
  exact Json.same_obj (same_merge (same_canonicalFields h)
    (Json.same_writtenMembers hx.nonNull.same) hkeys hkeys')

end Alike

end View

end Workflow
