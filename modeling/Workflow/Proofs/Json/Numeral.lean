import Workflow.Json.Reader
import Workflow.Proofs.Number

/-! The text of a number is read as the number. -/

namespace Workflow

namespace Json

namespace Reader

lemma natural_eq (cs : List Char) : natural cs = Nat.ofDigitChars 10 cs 0 := by
  rw [natural, Nat.ofDigitChars_eq_foldl]
  congr 1
  funext n c
  rw [mul_comm]
  rfl

/-- A number ends before the text. -/
def Stops (cs : List Char) : Prop :=
  ∀ c ∈ cs.head?, c.isDigit = false ∧ c ≠ '.' ∧ c ≠ 'e' ∧ c ≠ 'E'

variable {limit : ℕ} {negative : Bool} {whole ds tail tail' rest : List Char} {power : Option ℤ}

lemma takeWhile_digits (hds : ∀ c ∈ ds, c.isDigit = true)
    (hrest : ∀ c ∈ rest.head?, c.isDigit = false) : (ds ++ rest).takeWhile isAsciiDigit = ds := by
  have hdigit : isAsciiDigit = Char.isDigit := rfl
  rw [hdigit, List.takeWhile_append_of_pos hds]
  cases rest with
  | nil => simp
  | cons c rest =>
    rw [List.takeWhile_cons_of_neg, List.append_nil]
    simp [hrest c rfl]

lemma fraction_absent (h : ∀ c ∈ rest.head?, c ≠ '.') : fraction rest = ([], rest) := by
  cases rest with
  | nil => rfl
  | cons c rest =>
    have hc := h c rfl
    unfold fraction
    split
    · rename_i heq
      exact absurd (List.cons.inj heq).1 hc
    · rfl

lemma fraction_digits (hds : ∀ c ∈ ds, c.isDigit = true) (hne : ds ≠ [])
    (hrest : ∀ c ∈ rest.head?, c.isDigit = false) :
    fraction ('.' :: (ds ++ rest)) = (ds, rest) := by
  have hempty : ds.isEmpty = false := by simpa using hne
  simp only [fraction, takeWhile_digits hds hrest, hempty, List.drop_left, Bool.false_eq_true,
    if_false]

lemma exponent_absent (h : Stops rest) : exponent rest = (none, rest) := by
  cases rest with
  | nil => rfl
  | cons c rest =>
    obtain ⟨-, -, he, hE⟩ := h c rfl
    simp [exponent, he, hE]

lemma exponent_digits (negative : Bool) (hds : ∀ c ∈ ds, c.isDigit = true) (hne : ds ≠ [])
    (hrest : ∀ c ∈ rest.head?, c.isDigit = false) :
    exponent ('e' :: ((if negative then ['-'] else ['+']) ++ (ds ++ rest))) =
      (some (if negative then -(natural ds : ℤ) else natural ds), rest) := by
  have hempty : ds.isEmpty = false := by simpa using hne
  cases negative <;>
    simp [exponent, takeWhile_digits hds hrest, hempty]

/-- A number by its sign, the digits before the point, and what follows these. -/
lemma number_eq (hwhole : ∀ c ∈ whole, c.isDigit = true)
    (hfirst : ∃ c cs, whole = c :: cs ∧ (c = '0' → cs = []))
    (htail : ∀ c ∈ tail.head?, c.isDigit = false) :
    number limit ((if negative then ['-'] else []) ++ (whole ++ tail)) =
      if (fraction tail).1.isEmpty && (exponent (fraction tail).2).1.isNone then
        if limit < whole.length then .error (.longNumber whole.length)
        else
          .ok (.int (if negative then -(natural whole : ℤ) else natural whole),
            (exponent (fraction tail).2).2)
      else
        .ok (.float (Floating.ofDecimal negative (natural (whole ++ (fraction tail).1))
          ((exponent (fraction tail).2).1.getD 0 - (fraction tail).1.length)),
          (exponent (fraction tail).2).2) := by
  obtain ⟨c, cs, rfl, hzero⟩ := hfirst
  have hc : c.isDigit = true := hwhole c List.mem_cons_self
  have hminus : c ≠ '-' := by
    rintro rfl
    exact absurd hc (by decide)
  have hrun := takeWhile_digits hwhole htail
  unfold number
  split
  rename_i negative' body heq
  obtain ⟨rfl, rfl⟩ : negative' = negative ∧ body = c :: (cs ++ tail) := by
    cases negative <;> split at heq <;> simp_all
  have hdrop : (c :: (cs ++ tail)).drop (c :: cs).length = tail := List.drop_left
  dsimp only
  split
  · rename_i hbody
    obtain ⟨rfl, -⟩ := List.cons.inj hbody
    obtain rfl := hzero rfl
    simp only [List.isEmpty_cons, Bool.false_eq_true, if_false, hdrop]
  · rw [List.cons_append] at hrun
    rw [hrun]
    simp only [List.isEmpty_cons, Bool.false_eq_true, if_false, hdrop]

lemma number_float (hwhole : ∀ c ∈ whole, c.isDigit = true)
    (hfirst : ∃ c cs, whole = c :: cs ∧ (c = '0' → cs = []))
    (htail : ∀ c ∈ tail.head?, c.isDigit = false) (hfraction : fraction tail = (ds, tail'))
    (hexponent : exponent tail' = (power, rest)) (hpart : ds ≠ [] ∨ power ≠ none) :
    number limit ((if negative then ['-'] else []) ++ (whole ++ tail)) =
      .ok (.float (Floating.ofDecimal negative (natural (whole ++ ds))
        (power.getD 0 - ds.length)), rest) := by
  have hnone : (ds.isEmpty && power.isNone) = false := by
    rcases hpart with h | h
    · simp [h]
    · cases power <;> simp_all
  rw [number_eq hwhole hfirst htail]
  simp only [hfraction, hexponent, hnone, Bool.false_eq_true, if_false]

lemma number_int (hwhole : ∀ c ∈ whole, c.isDigit = true)
    (hfirst : ∃ c cs, whole = c :: cs ∧ (c = '0' → cs = [])) (hrest : Stops rest)
    (hlimit : whole.length ≤ limit) :
    number limit ((if negative then ['-'] else []) ++ (whole ++ rest)) =
      .ok (.int (if negative then -(natural whole : ℤ) else natural whole), rest) := by
  rw [number_eq hwhole hfirst fun c hc => (hrest c hc).1,
    fraction_absent fun c hc => (hrest c hc).2.1, exponent_absent hrest]
  simp [not_lt.mpr hlimit]

/-! Texts of numbers -/

variable {d : Digits} {f : Notation}

lemma natural_append (cs ds : List Char) :
    natural (cs ++ ds) = 10 ^ ds.length * natural cs + natural ds := by
  simp only [natural_eq]
  rw [Nat.ofDigitChars_append, Nat.ofDigitChars_eq_ofDigitChars_zero]

lemma natural_zeros (n : ℕ) : natural (Notation.zeros n) = 0 := by
  rw [natural_eq, Notation.zeros, Nat.ofDigitChars_replicate_zero, mul_zero]

lemma isDigit_zeros (n : ℕ) : ∀ c ∈ Notation.zeros n, c.isDigit = true := by
  intro c hc
  rw [List.eq_of_mem_replicate hc]
  decide

lemma isDigit_zero : ∀ c ∈ ['0'], c.isDigit = true := isDigit_zeros 1

lemma isDigit_append {cs : List Char} (hcs : ∀ c ∈ cs, c.isDigit = true)
    (hds : ∀ c ∈ ds, c.isDigit = true) : ∀ c ∈ cs ++ ds, c.isDigit = true :=
  List.forall_mem_append.mpr ⟨hcs, hds⟩

lemma ofDecimal_mul_pow (n k : ℕ) (e : ℤ) :
    Floating.ofDecimal negative (n * 10 ^ k) e = Floating.ofDecimal negative n (e + k) := by
  rw [Floating.ofDecimal, Floating.ofDecimal, Binary64.ofDecimal_mul_pow]

lemma number_below (hd : d.Plain) (hp : d.point ≤ 0) (hrest : Stops rest) :
    number limit ((if negative then ['-'] else []) ++ (f.positional d ++ rest)) =
      .ok (.float (Floating.ofDecimal negative (natural d.digits) (d.point - d.digits.length)),
        rest) := by
  obtain ⟨c, cs, hfirst, -⟩ := hd.first
  have hdigits := isDigit_append (isDigit_zeros (-d.point).toNat) hd.digits
  have hne : Notation.zeros (-d.point).toNat ++ d.digits ≠ [] := by simp [hfirst]
  have htext : f.positional d ++ rest =
      ['0'] ++ '.' :: (Notation.zeros (-d.point).toNat ++ d.digits ++ rest) := by
    rw [Notation.positional, if_pos hp]
    simp
  rw [htext, number_float isDigit_zero ⟨'0', [], rfl, fun _ => rfl⟩ (by simp)
    (fraction_digits hdigits hne fun c hc => (hrest c hc).1) (exponent_absent hrest) (.inl hne),
    natural_append, natural_append, natural_zeros]
  have hzero : natural ['0'] = 0 := by decide
  have hlength : (0 : ℤ) - (Notation.zeros (-d.point).toNat ++ d.digits).length =
      d.point - d.digits.length := by
    rw [List.length_append, Notation.zeros, List.length_replicate]
    push_cast
    omega
  rw [hzero, Option.getD_none, hlength]
  simp

lemma number_padded (hf : f.wholeMark = true) (hd : d.Plain) {p : ℕ} (hp : d.point = p)
    (hpos : 0 < p) (hlength : d.digits.length ≤ p) (hrest : Stops rest) :
    number limit ((if negative then ['-'] else []) ++ (f.positional d ++ rest)) =
      .ok (.float (Floating.ofDecimal negative (natural d.digits) (d.point - d.digits.length)),
        rest) := by
  obtain ⟨c, cs, hfirst, hzero⟩ := hd.first
  have htoNat : d.point.toNat = p := by omega
  have hdrop : d.digits.drop p = [] := List.drop_eq_nil_of_le hlength
  have htake : d.digits.take p = d.digits := List.take_of_length_le hlength
  have htext : f.positional d ++ rest =
      (d.digits ++ Notation.zeros (p - d.digits.length)) ++ '.' :: (['0'] ++ rest) := by
    rw [Notation.positional, if_neg (by omega)]
    simp [htoNat, hdrop, htake, hf]
  have hwhole : ∃ a as, d.digits ++ Notation.zeros (p - d.digits.length) = a :: as ∧
      (a = '0' → as = []) := by
    refine ⟨c, cs ++ Notation.zeros (p - d.digits.length), by rw [hfirst]; rfl, fun h => ?_⟩
    obtain ⟨rfl, hone⟩ := hzero h
    have hp₁ : p = 1 := by omega
    rw [hfirst, hp₁]
    rfl
  have hvalue : natural (d.digits ++ Notation.zeros (p - d.digits.length) ++ ['0']) =
      natural d.digits * 10 ^ (p - d.digits.length + 1) := by
    have h0 : natural ['0'] = 0 := by decide
    rw [natural_append, natural_append, natural_zeros, Notation.zeros, List.length_replicate,
      pow_succ, h0]
    simp
    ring
  rw [htext, number_float (isDigit_append hd.digits (isDigit_zeros _)) hwhole (by simp)
    (fraction_digits isDigit_zero (List.cons_ne_nil _ _) fun c hc => (hrest c hc).1)
    (exponent_absent hrest) (.inl (List.cons_ne_nil _ _)), hvalue, ofDecimal_mul_pow,
    Option.getD_none, hp]
  congr 4
  push_cast [hlength]
  simp

lemma number_pointed (hd : d.Plain) {p : ℕ} (hp : d.point = p) (hpos : 0 < p)
    (hlength : p < d.digits.length) (hrest : Stops rest) :
    number limit ((if negative then ['-'] else []) ++ (f.positional d ++ rest)) =
      .ok (.float (Floating.ofDecimal negative (natural d.digits) (d.point - d.digits.length)),
        rest) := by
  obtain ⟨c, cs, hfirst, hzero⟩ := hd.first
  have htoNat : d.point.toNat = p := by omega
  have hne : d.digits.drop p ≠ [] := by
    rw [ne_eq, List.drop_eq_nil_iff]
    omega
  have hempty : (d.digits.drop p).isEmpty = false := by simpa using hlength
  have htext : f.positional d ++ rest = d.digits.take p ++ '.' :: (d.digits.drop p ++ rest) := by
    rw [Notation.positional, if_neg (by omega)]
    simp [htoNat, hempty, Nat.sub_eq_zero_of_le hlength.le, Notation.zeros]
  have hwhole : ∃ a as, d.digits.take p = a :: as ∧ (a = '0' → as = []) := by
    obtain ⟨k, rfl⟩ : ∃ k, p = k + 1 := ⟨p - 1, by omega⟩
    refine ⟨c, cs.take k, by rw [hfirst]; rfl, fun h => ?_⟩
    obtain ⟨rfl, -⟩ := hzero h
    rw [hfirst, List.length_singleton] at hlength
    omega
  rw [htext, number_float (fun c hc => hd.digits c (List.mem_of_mem_take hc)) hwhole (by simp)
    (fraction_digits (fun c hc => hd.digits c (List.mem_of_mem_drop hc)) hne
      fun c hc => (hrest c hc).1) (exponent_absent hrest) (.inl hne),
    List.take_append_drop, Option.getD_none, hp, List.length_drop]
  congr 4
  omega

lemma exponent_text (e : ℤ) (width : ℕ) (hrest : ∀ c ∈ rest.head?, c.isDigit = false) :
    exponent ('e' :: ((if e < 0 then ['-'] else ['+']) ++
      (Notation.zeros width ++ Nat.toDigits 10 e.natAbs ++ rest))) = (some e, rest) := by
  have hdigits := isDigit_append (isDigit_zeros width) fun c hc =>
    Nat.isDigit_of_mem_toDigits (b := 10) (n := e.natAbs) (by decide) (by decide) hc
  have hne : Notation.zeros width ++ Nat.toDigits 10 e.natAbs ≠ [] := by simp
  have hnatural : natural (Notation.zeros width ++ Nat.toDigits 10 e.natAbs) = e.natAbs := by
    rw [natural_append, natural_zeros, mul_zero, zero_add, natural_eq,
      Nat.ofDigitChars_ten_toDigits]
  have h := exponent_digits (decide (e < 0)) hdigits hne hrest
  have hvalue : (if e < 0 then -(e.natAbs : ℤ) else e.natAbs) = e := by
    split <;> omega
  simpa only [decide_eq_true_eq, hnatural, hvalue] using h

lemma number_scientific (hf : f.exponentPlus = true) (hd : d.Plain) (hrest : Stops rest) :
    number limit ((if negative then ['-'] else []) ++ (f.scientific d ++ rest)) =
      .ok (.float (Floating.ofDecimal negative (natural d.digits) (d.point - d.digits.length)),
        rest) := by
  obtain ⟨c, cs, hfirst, -⟩ := hd.first
  have hdigits := hd.digits
  rw [hfirst] at hdigits
  obtain ⟨hc, hcs⟩ := List.forall_mem_cons.mp hdigits
  have hone : ∀ a ∈ [c], a.isDigit = true := List.forall_mem_singleton.mpr hc
  have hexponent := exponent_text (d.point - 1)
    (f.exponentWidth - (Nat.toDigits 10 (d.point - 1).natAbs).length) fun c hc => (hrest c hc).1
  have htext : f.scientific d ++ rest = [c] ++ ((if cs = [] then [] else '.' :: cs) ++
      'e' :: ((if d.point - 1 < 0 then ['-'] else ['+']) ++
        (Notation.zeros (f.exponentWidth - (Nat.toDigits 10 (d.point - 1).natAbs).length) ++
          Nat.toDigits 10 (d.point - 1).natAbs ++ rest))) := by
    rw [Notation.scientific, hfirst]
    simp only [hf, if_true]
    cases cs <;> simp
  have hlength : ((d.point - 1 : ℤ) - cs.length : ℤ) = d.point - (c :: cs).length := by
    rw [List.length_cons]
    push_cast
    ring
  rw [htext, hfirst, ← hlength]
  generalize hp : (if d.point - 1 < 0 then ['-'] else ['+']) ++ _ = power at hexponent ⊢
  have hhead : ∀ a ∈ ('e' :: power).head?, a.isDigit = false ∧ a ≠ '.' := by
    rintro a ha
    obtain rfl := Option.some.inj ha
    decide
  by_cases hempty : cs = []
  · subst hempty
    rw [if_pos rfl, List.nil_append]
    rw [number_float hone ⟨c, [], rfl, fun _ => rfl⟩ (fun a ha => (hhead a ha).1)
      (fraction_absent fun a ha => (hhead a ha).2) hexponent (.inr (Option.some_ne_none _))]
    simp
  · have hcons : '.' :: cs ++ 'e' :: power = '.' :: (cs ++ 'e' :: power) := List.cons_append
    rw [if_neg hempty, hcons]
    rw [number_float hone ⟨c, [], rfl, fun _ => rfl⟩ (by simp)
      (fraction_digits hcs hempty fun a ha => (hhead a ha).1) hexponent (.inl hempty)]
    simp

lemma number_render (hmark : f.wholeMark = true) (hplus : f.exponentPlus = true) (hd : d.Plain)
    (hrest : Stops rest) :
    number limit ((f.render negative d).toList ++ rest) =
      .ok (.float (Floating.ofDecimal negative (natural d.digits) (d.point - d.digits.length)),
        rest) := by
  have hsign : ∀ body : List Char,
      (String.ofList (if negative then '-' :: body else body)).toList ++ rest = (if negative then ['-'] else []) ++ (body ++ rest) := by
    intro body
    rw [String.toList_ofList]
    cases negative <;> rfl
  rw [Notation.render, hsign]
  by_cases hrange : f.leastPoint ≤ d.point ∧ d.point ≤ f.greatestPoint
  · rw [if_pos hrange]
    rcases Int.lt_or_le 0 d.point with hp | hp
    · obtain ⟨p, hpoint⟩ : ∃ p : ℕ, d.point = p := ⟨d.point.toNat, by omega⟩
      rcases Nat.lt_or_ge p d.digits.length with hlength | hlength
      · exact number_pointed hd hpoint (by omega) hlength hrest
      · exact number_padded hmark hd hpoint (by omega) hlength hrest
    · exact number_below hd hp hrest
  · rw [if_neg hrange]
    exact number_scientific hplus hd hrest

/-- The text of a number is read as the number. -/
theorem number_text {x : Binary64} (h : x.Proper) (hrest : Stops rest) :
    number limit (x.text.toList ++ rest) = .ok (.float (.finite x), rest) := by
  obtain ⟨hplain, hreads⟩ := Digits.shortest_reads h
  rw [Binary64.text, number_render rfl rfl hplain hrest, Floating.ofDecimal, natural_eq, hreads]
  rfl

lemma toList_toString (n : ℤ) : (toString n).toList =
    (if decide (n < 0) = true then ['-'] else []) ++ Nat.toDigits 10 n.natAbs := by
  rw [Int.toString_eq_repr, Int.repr_eq_if]
  split
  · rename_i hn
    have habs : n.toNat = n.natAbs := by omega
    simp [show ¬ n < 0 by omega, habs]
  · rename_i hn
    have habs : (-n).toNat = n.natAbs := by omega
    simp [show n < 0 by omega, habs]

lemma number_toString (n : ℤ) (hrest : Stops rest)
    (hlimit : (Nat.toDigits 10 n.natAbs).length ≤ limit) :
    number limit ((toString n).toList ++ rest) = .ok (.int n, rest) := by
  have hdigits : ∀ c ∈ Nat.toDigits 10 n.natAbs, c.isDigit = true := fun c hc =>
    Nat.isDigit_of_mem_toDigits (by decide) (by decide) hc
  have hfirst : ∃ c cs, Nat.toDigits 10 n.natAbs = c :: cs ∧ (c = '0' → cs = []) := by
    rcases Nat.eq_zero_or_pos n.natAbs with h | h
    · exact ⟨'0', [], by rw [h]; rfl, fun _ => rfl⟩
    · obtain ⟨c, cs, heq, hc⟩ := Digits.first_toDigits h
      exact ⟨c, cs, heq, fun h0 => absurd h0 hc⟩
  rw [toList_toString, List.append_assoc, number_int hdigits hfirst hrest hlimit, natural_eq,
    Nat.ofDigitChars_ten_toDigits]
  have hvalue : (if decide (n < 0) = true then -(n.natAbs : ℤ) else n.natAbs) = n := by
    simp only [decide_eq_true_eq]
    split <;> omega
  rw [hvalue]

end Reader

end Json

end Workflow
