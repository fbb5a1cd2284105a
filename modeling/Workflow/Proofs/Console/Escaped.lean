import Workflow.Proofs.Console.Tags

/-! An escaped text has no active tag of its own. What follows it can still make one of a bracket
that it leaves open, and can be escaped by the backslashes at its end. -/

namespace Workflow.Markup

variable {n m : Nat} {c : Char} {cs b more : List Char}

section Backslashes

lemma past_replicate {α : Type} {f : Nat → List Char → α}
    (h : ∀ n cs, f n ('\\' :: cs) = f (n + 1) cs) :
    f n (List.replicate m '\\' ++ cs) = f (n + m) cs := by
  induction m generalizing n with
  | zero => rfl
  | succ m ih =>
    rw [List.replicate_succ, List.cons_append, h, ih, Nat.add_assoc, Nat.add_comm 1]

lemma tags_replicate : tags n (List.replicate m '\\' ++ cs) = tags (n + m) cs :=
  past_replicate fun _ _ => tags_backslash

lemma opening?_replicate : opening? n (List.replicate m '\\' ++ cs) = opening? (n + m) cs :=
  past_replicate fun _ _ => opening?_backslash

lemma trailing_replicate : trailing n (List.replicate m '\\' ++ cs) = trailing (n + m) cs :=
  past_replicate fun _ _ => trailing_backslash

lemma bare_replicate : bare (List.replicate m '\\' ++ cs) = bare cs := by
  simp [bare]

lemma closes_replicate : closes (List.replicate m '\\' ++ cs) = closes cs := by
  simp [closes_append, bare]

lemma closeBackslash_eq : closeBackslash cs = if trailing 0 cs = 1 then cs ++ ['\\'] else cs := by
  obtain ⟨r, rfl⟩ : ∃ r, cs = r.reverse := ⟨cs.reverse, by simp⟩
  rw [closeBackslash, List.reverse_reverse]
  match r with
  | [] => rfl
  | c :: r =>
    by_cases hc : c = '\\'
    · subst hc
      match r with
      | [] => rfl
      | d :: r =>
        by_cases hd : d = '\\'
        · subst hd
          simp [trailing_append, trailing]
        · simp [trailing_append, trailing, hd]
    · simp [trailing_append, trailing, hc]

end Backslashes

section Escaping

@[simp] lemma escapeTags_backslash : escapeTags n ('\\' :: cs) = escapeTags (n + 1) cs := by
  rw [escapeTags, if_pos rfl]

lemma escapeTags_bracket : escapeTags n ('[' :: cs) =
    List.replicate (if opensTag cs then 2 * n + 1 else n) '\\' ++ '[' :: escapeTags 0 cs := by
  rw [escapeTags, if_neg (by decide)]
  by_cases h : opensTag cs = true <;> simp [h]

lemma escapeTags_other (hs : c ≠ '\\') (ho : c ≠ '[') :
    escapeTags n (c :: cs) = List.replicate n '\\' ++ c :: escapeTags 0 cs := by
  simp [escapeTags, hs, ho]

lemma bare_escapeTags : bare (escapeTags n cs) = bare cs := by
  induction n, cs using scan with
  | nil n => simp [escapeTags, bare]
  | backslash n cs ih => exact escapeTags_backslash ▸ ih
  | bracket n cs _ =>
    rw [escapeTags_bracket, bare_replicate]
    rfl
  | other n c cs hs ho ih =>
    rw [escapeTags_other hs ho, bare_replicate, bare_cons, ih, bare_cons]

lemma closes_escapeTags : closes (escapeTags n cs) = closes cs := by
  induction n, cs using scan with
  | nil n => exact closes_of_bare (by simp [escapeTags, bare])
  | backslash n cs ih => exact escapeTags_backslash ▸ ih
  | bracket n cs _ =>
    rw [escapeTags_bracket, closes_replicate]
    rfl
  | other n c cs hs ho ih => rw [escapeTags_other hs ho, closes_replicate, closes, closes, ih]

lemma escapeTags_of_bare (h : bare cs = true) : escapeTags n cs = List.replicate n '\\' ++ cs := by
  induction n, cs using scan with
  | nil n => simp [escapeTags]
  | backslash n cs ih =>
    rw [escapeTags_backslash, ih h, List.replicate_succ', List.append_assoc]
    rfl
  | bracket n cs _ => cases h
  | other n c cs hs ho ih =>
    rw [escapeTags_other hs ho, ih (by simp_all [bare_cons])]
    rfl

lemma exists_escapeTags : ∃ more, escapeTags n cs = List.replicate n '\\' ++ more := by
  induction n, cs using scan with
  | nil n => exact ⟨[], by simp [escapeTags]⟩
  | backslash n cs ih =>
    obtain ⟨more, h⟩ := ih
    refine ⟨'\\' :: more, ?_⟩
    rw [escapeTags_backslash, h, List.replicate_succ', List.append_assoc]
    rfl
  | bracket n cs _ =>
    refine ⟨List.replicate (if opensTag cs then n + 1 else 0) '\\' ++ '[' :: escapeTags 0 cs, ?_⟩
    rw [escapeTags_bracket, ← List.append_assoc, List.replicate_append_replicate]
    congr 2
    split <;> omega
  | other n c cs hs ho _ => exact ⟨_, escapeTags_other hs ho⟩

lemma opensTag_escapeTags : opensTag (escapeTags 0 cs) = opensTag cs := by
  cases cs with
  | nil => rfl
  | cons c cs =>
    by_cases hs : c = '\\'
    · obtain ⟨more, h⟩ := @exists_escapeTags 1 cs
      rw [hs, escapeTags_backslash, h]
      rfl
    by_cases ho : c = '['
    · rw [ho, escapeTags_bracket]
      split <;> rfl
    · rw [escapeTags_other hs ho]
      simp [opensTag, closes_escapeTags]

lemma inactive_escapeTags : ∀ t ∈ tags 0 (escapeTags n cs), t.active = false := by
  induction n, cs using scan with
  | nil n => simp [escapeTags, tags_of_bare, bare]
  | backslash n cs ih => exact escapeTags_backslash ▸ ih
  | bracket n cs ih =>
    rw [escapeTags_bracket, tags_replicate, tags_bracket, opensTag_escapeTags]
    intro t ht
    rcases List.mem_append.mp ht with ht | ht
    · by_cases hopen : opensTag cs = true
      · -- the bracket of a tag has an odd number, as it was doubled and one was added
        obtain rfl : t = ⟨2 * n + 1, _⟩ := by simpa [hopen] using ht
        simp [Tag.active]
      · simp [hopen] at ht
    · exact ih t ht
  | other n c cs hs ho ih =>
    rw [escapeTags_other hs ho, tags_replicate, tags_other hs ho]
    exact ih

lemma activeFrom_escapeTags : activeFrom 0 (escapeTags n cs) = [] := by
  simpa [activeFrom] using inactive_escapeTags

lemma opening?_escapeTags : opening? 0 (escapeTags n cs) = opening? n cs := by
  induction n, cs using scan with
  | nil n => exact opening?_of_bare (by simp [escapeTags, bare])
  | backslash n cs ih => exact escapeTags_backslash ▸ ih
  | bracket n cs ih =>
    rw [escapeTags_bracket, opening?_replicate, opening?_bracket, opening?_bracket,
      bare_escapeTags, ih]
    by_cases hb : bare cs = true
    · simp [hb, opensTag_of_not_closes (closes_of_bare hb), escapeTags_of_bare hb]
    · simp [hb]
  | other n c cs hs ho ih =>
    rw [escapeTags_other hs ho, opening?_replicate, opening?_other hs ho, opening?_other hs ho, ih]

lemma trailing_escapeTags : trailing 0 (escapeTags n cs) = trailing n cs := by
  induction n, cs using scan with
  | nil n => simpa [escapeTags, trailing] using @trailing_replicate 0 n []
  | backslash n cs ih => exact escapeTags_backslash ▸ ih
  | bracket n cs ih =>
    rw [escapeTags_bracket, trailing_replicate, trailing_other (by decide), ih,
      trailing_other (by decide)]
  | other n c cs hs ho ih =>
    rw [escapeTags_other hs ho, trailing_replicate, trailing_other hs, ih, trailing_other hs]

end Escaping

variable {s : String}

def backslashAfter (s : String) : List Char := if trailing 0 s.toList = 1 then ['\\'] else []

lemma toList_escape : (escape s).toList = escapeTags 0 s.toList ++ backslashAfter s := by
  rw [escape, String.toList_ofList, closeBackslash_eq, trailing_escapeTags, backslashAfter]
  split_ifs <;> simp

lemma bare_backslashAfter : bare (backslashAfter s) = true := by
  rw [backslashAfter]
  split_ifs <;> rfl

lemma activeFrom_escape : activeFrom 0 (escape s).toList = [] := by
  rw [toList_escape, activeFrom_append_of_not_closes (closes_of_bare bare_backslashAfter),
    activeFrom_escapeTags, activeFrom, tags_of_bare bare_backslashAfter]
  rfl

lemma opening?_escape : opening? 0 (escape s).toList =
    (opening? 0 s.toList).map fun o => ⟨o.backslashes, o.text ++ backslashAfter s⟩ := by
  rw [toList_escape, opening?_append bare_backslashAfter, opening?_escapeTags]

lemma trailing_escape : trailing 0 (escape s).toList =
    if trailing 0 s.toList = 1 then 2 else trailing 0 s.toList := by
  rw [toList_escape, trailing_append, trailing_escapeTags, backslashAfter]
  split_ifs with h
  · rw [h]
    rfl
  · rfl

lemma closes_escape_append : closes ((escape s).toList ++ b) = closes (s.toList ++ b) := by
  rw [toList_escape, List.append_assoc, closes_append, closes_append (a := backslashAfter s),
    bare_backslashAfter, bare_escapeTags, closes_escapeTags, closes_append]
  rfl

def leavesOpen (s : String) : Bool :=
  match opening? 0 s.toList with
  | some ⟨n, c :: _⟩ => n % 2 == 0 && isTagStart c
  | _ => false

def stray (s : String) (more : List Char) : List String :=
  activeJoint (opening? 0 (escape s).toList) more

lemma activeFrom_escape_append : activeFrom 0 ((escape s).toList ++ more) =
    stray s more ++ activeFrom (trailing 0 (escape s).toList) more := by
  rw [activeFrom_append, activeFrom_escape, List.nil_append, stray]

lemma stray_eq_nil_iff (h : opensTag more = false) :
    stray s more = [] ↔ ¬(leavesOpen s = true ∧ closes more = true) := by
  rw [stray, opening?_escape, leavesOpen]
  cases ho : opening? 0 s.toList with
  | none => simp [activeJoint, joint]
  | some o =>
    obtain ⟨n, text⟩ := o
    have hb : bare (text ++ backslashAfter s) = true := by
      rw [bare_append, bare_opening ho, bare_backslashAfter]
      rfl
    cases text with
    | nil =>
      have hopen : opensTag (backslashAfter s ++ more) = false := by
        rw [backslashAfter]
        split_ifs
        · rfl
        · exact h
      simp [activeJoint, joint, hopen]
    | cons c text =>
      have hb : bare (text ++ backslashAfter s) = true := by
        simp_all [bare_cons]
      have hopen : opensTag (c :: text ++ backslashAfter s ++ more) =
          (isTagStart c && closes more) := by
        rw [List.cons_append, List.cons_append, opensTag, closes_append, hb, if_pos rfl]
      by_cases hc : (isTagStart c && closes more) = true
      · simp_all [activeJoint, joint, Tag.active]
      · simp_all [activeJoint, joint]

end Workflow.Markup
