import Mathlib.Data.List.Basic
import Workflow.Console.Markup

/-! The tags of a text with markup, and what becomes of them where texts are joined. -/

namespace Workflow.Markup

structure Tag where
  backslashes : Nat
  text : List Char
deriving DecidableEq, Repr

def Tag.active (t : Tag) : Bool := t.backslashes % 2 == 0

def beforeClosing (cs : List Char) : List Char := cs.takeWhile (· ≠ ']')

def behindClosing (cs : List Char) : List Char := (cs.dropWhile (· ≠ ']')).tail

def tags (n : Nat) : List Char → List Tag
  | [] => []
  | c :: rest =>
    if c = '\\' then tags (n + 1) rest
    else if c = '[' && opensTag rest then ⟨n, beforeClosing rest⟩ :: tags 0 (behindClosing rest)
    else tags 0 rest
termination_by cs => cs.length
decreasing_by
  · simp
  · have : (rest.dropWhile (· ≠ ']')).length ≤ rest.length :=
      (List.dropWhile_suffix _).length_le
    simp only [behindClosing, List.length_tail, List.length_cons]
    omega
  · simp

def activeFrom (n : Nat) (cs : List Char) : List String :=
  ((tags n cs).filter Tag.active).map fun t => String.ofList t.text

def activeTags (s : String) : List String := activeFrom 0 s.toList

def bare (cs : List Char) : Bool := cs.all fun c => c != '[' && c != ']'

def opening? (n : Nat) : List Char → Option Tag
  | [] => none
  | c :: rest =>
    if c = '\\' then opening? (n + 1) rest
    else if c = '[' && bare rest then some ⟨n, rest⟩
    else opening? 0 rest

def trailing (n : Nat) : List Char → Nat
  | [] => n
  | c :: rest => if c = '\\' then trailing (n + 1) rest else trailing 0 rest

def joint (o? : Option Tag) (more : List Char) : List Tag :=
  match o? with
  | none => []
  | some o =>
    if opensTag (o.text ++ more) then [⟨o.backslashes, beforeClosing (o.text ++ more)⟩] else []

def activeJoint (o? : Option Tag) (more : List Char) : List String :=
  ((joint o? more).filter Tag.active).map fun t => String.ofList t.text

@[elab_as_elim]
theorem scan {motive : Nat → List Char → Prop} (nil : ∀ n, motive n [])
    (backslash : ∀ n cs, motive (n + 1) cs → motive n ('\\' :: cs))
    (bracket : ∀ n cs, motive 0 cs → motive n ('[' :: cs))
    (other : ∀ n c cs, c ≠ '\\' → c ≠ '[' → motive 0 cs → motive n (c :: cs))
    (n : Nat) (cs : List Char) : motive n cs := by
  induction cs generalizing n with
  | nil => exact nil n
  | cons c cs ih =>
    by_cases hs : c = '\\'
    · exact hs ▸ backslash n cs (ih (n + 1))
    by_cases ho : c = '['
    · exact ho ▸ bracket n cs (ih 0)
    · exact other n c cs hs ho (ih 0)

variable {n m : Nat} {c : Char} {cs a b more : List Char}

section Brackets

lemma bare_cons : bare (c :: cs) = (c != '[' && c != ']' && bare cs) := rfl

lemma bare_append : bare (a ++ b) = (bare a && bare b) := List.all_append

lemma isTagStart_ne (h : isTagStart c = true) : c ≠ '[' ∧ c ≠ ']' := by
  constructor <;> (rintro rfl; exact absurd h (by decide))

lemma closes_append : closes (a ++ b) = if bare a then closes b else closes a := by
  induction a with
  | nil => rfl
  | cons c a ih =>
    rw [List.cons_append, closes, closes, ih, bare_cons]
    by_cases h1 : c = '['
    · simp [h1]
    · by_cases h2 : c = ']' <;> simp [h1, h2]

lemma closes_other (ho : c ≠ '[') (hc : c ≠ ']') : closes (c :: cs) = closes cs := by
  simp [closes, ho, hc]

lemma closes_of_bare (h : bare a = true) : closes a = false := by
  simpa [closes, h] using closes_append (a := a) (b := [])

lemma closes_of_opensTag (h : opensTag cs = true) : closes cs = true := by
  cases cs with
  | nil => cases h
  | cons c cs =>
    obtain ⟨hc, hcs⟩ : isTagStart c = true ∧ closes cs = true := by simpa [opensTag] using h
    obtain ⟨h1, h2⟩ := isTagStart_ne hc
    simpa [closes, h1, h2] using hcs

lemma opensTag_of_not_closes (h : closes cs = false) : opensTag cs = false :=
  Bool.eq_false_iff.mpr fun ho => by simp [closes_of_opensTag ho] at h

lemma opensTag_append (h : bare a = false) : opensTag (a ++ b) = opensTag a := by
  cases a with
  | nil => cases h
  | cons c a =>
    by_cases hc : isTagStart c = true
    · obtain ⟨h1, h2⟩ := isTagStart_ne hc
      have ha : bare a = false := by simpa [bare_cons, h1, h2] using h
      simp [opensTag, closes_append, ha]
    · simp [opensTag, hc]

lemma exists_closing (h : closes cs = true) :
    ∃ text more, bare text = true ∧ cs = text ++ ']' :: more := by
  induction cs with
  | nil => cases h
  | cons c cs ih =>
    rw [closes] at h
    split_ifs at h with ho hc
    · exact ⟨[], cs, rfl, by rw [hc]; rfl⟩
    · obtain ⟨text, more, hb, rfl⟩ := ih h
      exact ⟨c :: text, more, by simp [bare_cons, ho, hc, hb], rfl⟩

section Closing

variable {text : List Char} (h : bare text = true)
include h

lemma forall_ne_of_bare : ∀ c ∈ text, decide (c ≠ ']') = true := by
  intro c hc
  have := List.all_eq_true.mp h c hc
  simp_all

lemma beforeClosing_closed : beforeClosing (text ++ ']' :: more) = text := by
  rw [beforeClosing, List.takeWhile_append_of_pos (forall_ne_of_bare h)]
  simp

lemma behindClosing_closed : behindClosing (text ++ ']' :: more) = more := by
  rw [behindClosing, List.dropWhile_append_of_pos (forall_ne_of_bare h)]
  simp

end Closing

lemma beforeClosing_append (h : opensTag a = true) : beforeClosing (a ++ b) = beforeClosing a := by
  obtain ⟨text, more, hb, rfl⟩ := exists_closing (closes_of_opensTag h)
  rw [List.append_assoc, List.cons_append, beforeClosing_closed hb, beforeClosing_closed hb]

end Brackets

section Reading

@[simp] lemma tags_nil : tags n [] = [] := by rw [tags]

@[simp] lemma tags_backslash : tags n ('\\' :: cs) = tags (n + 1) cs := by
  rw [tags, if_pos rfl]

lemma tags_other (hc : c ≠ '\\') (ho : c ≠ '[') : tags n (c :: cs) = tags 0 cs := by
  rw [tags, if_neg hc]
  simp [ho]

@[simp] lemma opening?_backslash : opening? n ('\\' :: cs) = opening? (n + 1) cs := rfl

@[simp] lemma opening?_bracket :
    opening? n ('[' :: cs) = if bare cs then some ⟨n, cs⟩ else opening? 0 cs := by
  simp [opening?]

lemma opening?_other (hc : c ≠ '\\') (ho : c ≠ '[') : opening? n (c :: cs) = opening? 0 cs := by
  simp [opening?, hc, ho]

@[simp] lemma trailing_backslash : trailing n ('\\' :: cs) = trailing (n + 1) cs := rfl

lemma trailing_other (hc : c ≠ '\\') : trailing n (c :: cs) = trailing 0 cs := if_neg hc

lemma tags_bare_append (h : bare a = true) : tags n (a ++ more) = tags (trailing n a) more := by
  induction n, a using scan with
  | nil n => rfl
  | backslash n cs ih => simpa using ih h
  | bracket n cs _ => cases h
  | other n c cs hs ho ih =>
    have hcs : bare cs = true := by simp_all [bare_cons]
    rw [List.cons_append, tags_other hs ho, ih hcs, trailing_other hs]

lemma tags_of_bare (h : bare a = true) : tags n a = [] := by
  rw [← List.append_nil a, tags_bare_append h, tags_nil]

lemma opening?_of_bare (h : bare a = true) : opening? n a = none := by
  induction n, a using scan with
  | nil n => rfl
  | backslash n cs ih => exact ih h
  | bracket n cs _ => cases h
  | other n c cs hs ho ih => exact (opening?_other hs ho).trans (ih (by simp_all [bare_cons]))

lemma tags_behindClosing (h : closes cs = true) : tags n cs = tags 0 (behindClosing cs) := by
  obtain ⟨text, more, hb, rfl⟩ := exists_closing h
  rw [tags_bare_append hb, behindClosing_closed hb, tags_other (by decide) (by decide)]

lemma tags_bracket : tags n ('[' :: cs) =
    (if opensTag cs then [⟨n, beforeClosing cs⟩] else []) ++ tags 0 cs := by
  -- A tag has no bracket in it, so the search may as well go on behind its opening bracket.
  rw [tags, if_neg (by decide)]
  by_cases h : opensTag cs = true
  · simp [h, tags_behindClosing (closes_of_opensTag h)]
  · simp [h]

lemma bare_opening {o : Tag} (h : opening? n a = some o) : bare o.text = true := by
  induction n, a using scan with
  | nil n => cases h
  | backslash n cs ih => exact ih h
  | bracket n cs ih =>
    rw [opening?_bracket] at h
    split_ifs at h with hb
    · cases h
      exact hb
    · exact ih h
  | other n c cs hs ho ih => exact ih ((opening?_other hs ho).symm.trans h)

end Reading

section Joining

lemma tags_bracket_append (ih : tags 0 (cs ++ b) =
      tags 0 cs ++ joint (opening? 0 cs) b ++ tags (trailing 0 cs) b) :
    tags n ('[' :: cs ++ b) =
      tags n ('[' :: cs) ++ joint (opening? n ('[' :: cs)) b ++ tags (trailing 0 cs) b := by
  rw [List.cons_append, tags_bracket, tags_bracket, ih, opening?_bracket]
  -- without a bracket in what follows, the bracket is left open for `b`; else all is decided before
  by_cases hb : bare cs = true
  · simp [hb, tags_of_bare hb, opening?_of_bare hb, opensTag_of_not_closes (closes_of_bare hb),
      joint]
  · have hb : bare cs = false := by simpa using hb
    by_cases hopen : opensTag cs = true
    · simp [hb, opensTag_append hb, beforeClosing_append hopen]
    · simp [hb, opensTag_append hb, hopen]

lemma tags_append : tags n (a ++ b) =
    tags n a ++ joint (opening? n a) b ++ tags (trailing n a) b := by
  induction n, a using scan with
  | nil n => simp [opening?, joint, trailing]
  | backslash n cs ih => simpa using ih
  | bracket n cs ih => exact tags_bracket_append ih
  | other n c cs hs ho ih =>
    rw [List.cons_append, tags_other hs ho, tags_other hs ho, opening?_other hs ho,
      trailing_other hs, ih]

lemma trailing_append : trailing n (a ++ b) = trailing (trailing n a) b := by
  induction a generalizing n with
  | nil => rfl
  | cons c a ih => by_cases hs : c = '\\' <;> simp [trailing, hs, ih]

lemma opening?_append (h : bare b = true) :
    opening? n (a ++ b) = (opening? n a).map fun o => ⟨o.backslashes, o.text ++ b⟩ := by
  induction n, a using scan with
  | nil n => exact opening?_of_bare h
  | backslash n cs ih => exact ih
  | bracket n cs ih =>
    rw [List.cons_append, opening?_bracket, opening?_bracket, bare_append, h, ih]
    cases bare cs <;> rfl
  | other n c cs hs ho ih =>
    rw [List.cons_append, opening?_other hs ho, opening?_other hs ho, ih]

lemma activeFrom_append : activeFrom n (a ++ b) =
    activeFrom n a ++ activeJoint (opening? n a) b ++ activeFrom (trailing n a) b := by
  simp [activeFrom, activeJoint, tags_append]

lemma activeJoint_of_not_closes (h : closes b = false) : activeJoint (opening? n a) b = [] := by
  have hj : joint (opening? n a) b = [] := by
    cases ho : opening? n a with
    | none => rfl
    | some o =>
      have hc : closes (o.text ++ b) = false := by
        rw [closes_append, bare_opening ho, if_pos rfl, h]
      rw [joint, opensTag_of_not_closes hc]
      rfl
  rw [activeJoint, hj]
  rfl

lemma activeFrom_append_of_not_closes (h : closes b = false) :
    activeFrom n (a ++ b) = activeFrom n a ++ activeFrom (trailing n a) b := by
  rw [activeFrom_append, activeJoint_of_not_closes h, List.append_nil]

lemma activeFrom_take (h : activeFrom n a = []) (k : Nat) : activeFrom n (a.take k) = [] := by
  rw [← List.take_append_drop k a, activeFrom_append] at h
  simp_all

end Joining

end Workflow.Markup
