import Mathlib.Data.List.Lex
import Mathlib.Tactic.IntervalCases
import Mathlib.Tactic.Lemma
import Workflow.Instant

/-! Points in time and their texts: in universal time the texts are ordered as the points are, with
and without a fraction. -/

namespace Workflow

def decimals : Nat → Nat → List Char
  | 0, _ => []
  | w + 1, n => decimals w (n / 10) ++ [(n % 10).digitChar]

@[simp] lemma length_decimals (w n : Nat) : (decimals w n).length = w := by
  induction w generalizing n with
  | zero => rfl
  | succ w ih => simp [decimals, ih]

lemma digitChar_lt {m n : Nat} (h : m < n) (hn : n < 10) : m.digitChar < n.digitChar := by
  interval_cases n <;> interval_cases m <;> decide

lemma append_lt_append_of_lt {x y a b : List Char} (hl : x.length = y.length) (h : x < y) :
    x ++ a < y ++ b := by
  induction x generalizing y with
  | nil =>
    obtain rfl := List.length_eq_zero_iff.mp hl.symm
    exact absurd h (List.not_lt_nil [])
  | cons c x ih =>
    cases y with
    | nil => simp at hl
    | cons d y =>
      simp only [List.length_cons, Nat.add_right_cancel_iff] at hl
      rw [List.cons_lt_cons_iff] at h
      rw [List.cons_append, List.cons_append, List.cons_lt_cons_iff]
      exact h.imp id fun ⟨he, hlt⟩ => ⟨he, ih hl hlt⟩

lemma decimals_lt {w m n : Nat} (h : m < n) (hn : n < 10 ^ w) : decimals w m < decimals w n := by
  induction w generalizing m n with
  | zero => simp at hn; omega
  | succ w ih =>
    rcases Nat.lt_or_ge (m / 10) (n / 10) with hlt | hge
    · exact append_lt_append_of_lt (by simp) (ih hlt (by rw [Nat.pow_succ] at hn; omega))
    · have hdiv : m / 10 = n / 10 := by omega
      rw [decimals, decimals, hdiv]
      exact List.append_left_lt
        (List.cons_lt_cons_iff.mpr (.inl (digitChar_lt (by omega) (by omega))))

lemma decimals_zero (w : Nat) : decimals w 0 = List.replicate w '0' := by
  induction w with
  | zero => rfl
  | succ w ih => simp [decimals, ih, List.replicate_succ']

lemma toList_padded {w n : Nat} (hw : 0 < w) (hn : n < 10 ^ w) :
    (Instant.padded w n).toList = decimals w n := by
  simp only [Instant.padded, String.toList_ofList]
  induction w, hw using Nat.le_induction generalizing n with
  | base =>
    rw [Nat.toDigits_of_lt_base (by omega)]
    simp [decimals, Nat.mod_eq_of_lt (show n < 10 by omega)]
  | succ w hw ih =>
    by_cases hsmall : n < 10
    · rw [Nat.toDigits_of_lt_base hsmall, decimals, Nat.div_eq_of_lt hsmall, decimals_zero,
        Nat.mod_eq_of_lt hsmall]
      rfl
    · have hdiv := ih (n := n / 10) (by rw [Nat.pow_succ] at hn; omega)
      rw [Nat.toDigits_of_base_le (by decide) (by omega), decimals, ← hdiv]
      simp

namespace CivilDate

def Before (d e : CivilDate) : Prop :=
  d.year < e.year ∨ d.year = e.year ∧ (d.month < e.month ∨ d.month = e.month ∧ d.day < e.day)

structure Proper (d : CivilDate) : Prop where
  month_pos : 1 ≤ d.month
  month_le : d.month ≤ 12
  day_le : d.day ≤ 31

def yearOfEra (dayOfEra : Int) : Int :=
  (dayOfEra - dayOfEra / 1460 + dayOfEra / 36524 - dayOfEra / 146096) / 365

def dayOfYear (dayOfEra : Int) : Int :=
  dayOfEra - (365 * yearOfEra dayOfEra + yearOfEra dayOfEra / 4 - yearOfEra dayOfEra / 100)

def ofMarch (year : Int) (day : Nat) : CivilDate :=
  let m := (5 * day + 2) / 153
  let month := if m < 10 then m + 3 else m - 9
  ⟨if month ≤ 2 then year + 1 else year, month, day - daysBeforeMonth m + 1⟩

lemma ofDays_eq (days : Int) : ofDays days =
    ofMarch (yearOfEra ((days + 719468) % 146097) + (days + 719468) / 146097 * 400)
      (dayOfYear ((days + 719468) % 146097)).toNat := rfl

lemma ofMarch_proper (year : Int) {day : Nat} (h : day ≤ 366) : (ofMarch year day).Proper := by
  constructor <;> simp only [ofMarch, daysBeforeMonth] <;> (try split) <;> omega

lemma ofMarch_before {y z : Int} {d e : Nat} (hd : d ≤ 366) (he : e ≤ 366)
    (h : y < z ∨ y = z ∧ d < e) : (ofMarch y d).Before (ofMarch z e) := by
  have hmonth : (5 * d + 2) / 153 ≤ 11 := by omega
  have hmonth' : (5 * e + 2) / 153 ≤ 11 := by omega
  simp only [Before, ofMarch, daysBeforeMonth]
  split_ifs <;> omega

lemma yearOfEra_bounds (a : Int) :
    365 * yearOfEra a ≤ a - a / 1460 + a / 36524 - a / 146096 ∧
      a - a / 1460 + a / 36524 - a / 146096 ≤ 365 * yearOfEra a + 364 := by
  unfold yearOfEra
  omega

lemma yearOfEra_mono {a b : Int} (h : a ≤ b) : yearOfEra a ≤ yearOfEra b := by
  have hleaps : a - a / 1460 ≤ b - b / 1460 := by omega
  have hcenturies : a / 36524 - a / 146096 ≤ b / 36524 - b / 146096 := by omega
  exact Int.ediv_le_ediv (by decide) (by omega)

section

variable {a : Int} (ha : 0 ≤ a) (hb : a < 146097)

include ha hb

lemma yearOfEra_lt : 0 ≤ yearOfEra a ∧ yearOfEra a < 400 := by
  unfold yearOfEra
  omega

lemma dayOfYear_le : dayOfYear a ≤ 366 := by
  have := yearOfEra_bounds a
  unfold dayOfYear
  omega

lemma dayOfYear_nonneg : 0 ≤ dayOfYear a := by
  have hyear := yearOfEra_bounds a
  -- No more leap days are taken off than have been counted.
  have hleaps : yearOfEra a / 4 ≤ a / 1460 := by
    unfold yearOfEra
    omega
  have hcenturies : a / 36524 ≤ yearOfEra a / 100 + a / 146096 := by
    unfold yearOfEra
    omega
  unfold dayOfYear
  omega

end

lemma ofDays_proper (days : Int) : (ofDays days).Proper := by
  have := dayOfYear_le (a := (days + 719468) % 146097) (by omega) (by omega)
  exact ofDays_eq days ▸ ofMarch_proper _ (by omega)

lemma ofDays_before {a b : Int} (h : a < b) : (ofDays a).Before (ofDays b) := by
  have hyear := yearOfEra_lt (a := (a + 719468) % 146097) (by omega) (by omega)
  have hyear' := yearOfEra_lt (a := (b + 719468) % 146097) (by omega) (by omega)
  have hday := dayOfYear_le (a := (a + 719468) % 146097) (by omega) (by omega)
  have hday' := dayOfYear_le (a := (b + 719468) % 146097) (by omega) (by omega)
  have hpos := dayOfYear_nonneg (a := (a + 719468) % 146097) (by omega) (by omega)
  rw [ofDays_eq, ofDays_eq]
  apply ofMarch_before (by omega) (by omega)
  rcases lt_or_ge ((a + 719468) / 146097) ((b + 719468) / 146097) with hera | hera
  · omega
  · have hrest : (a + 719468) % 146097 < (b + 719468) % 146097 := by omega
    have hmono := yearOfEra_mono hrest.le
    rcases hmono.lt_or_eq with hlt | heq
    · omega
    · have hdays : dayOfYear ((a + 719468) % 146097) < dayOfYear ((b + 719468) % 146097) := by
        rw [dayOfYear, dayOfYear, heq]
        omega
      omega

end CivilDate

namespace Instant

/-- What a clock of universal time can show. -/
structure Universal (t : Instant) : Prop where
  offset : t.offset = 0
  counted : t.hasCountedYear = true

variable {t u : Instant}

lemma field_lt {w m n : Nat} {a b : List Char} (hn : n < 10 ^ w) (h : m < n ∨ m = n ∧ a < b) :
    decimals w m ++ a < decimals w n ++ b := by
  rcases h with h | ⟨rfl, h⟩
  · exact append_lt_append_of_lt (by simp) (decimals_lt h hn)
  · exact List.append_left_lt h

lemma mark_lt {c : Char} {a b : List Char} (h : a < b) : c :: a < c :: b :=
  List.cons_lt_cons_iff.mpr (.inr ⟨rfl, h⟩)

def fractionText (n : Nat) : List Char :=
  (if n = 0 then [] else '.' :: decimals 6 n) ++ "+00:00".toList

lemma fractionText_lt {m n : Nat} (h : m < n) (hn : n < 1000000) :
    fractionText m < fractionText n := by
  -- A text without a fraction comes before those with one, since a plus sign comes before a point.
  rw [fractionText, fractionText, if_neg (show n ≠ 0 by omega)]
  split
  · exact List.cons_lt_cons_iff.mpr (.inl (by decide))
  · exact mark_lt (field_lt hn (.inl h))

def clockChars (n : Nat) : List Char :=
  decimals 2 (n / 1000000 / 3600) ++ ':' :: (decimals 2 (n / 1000000 / 60 % 60) ++ ':' ::
    (decimals 2 (n / 1000000 % 60) ++ fractionText (n % 1000000)))

lemma clockChars_lt {m n : Nat} (h : m < n) (hn : n < 86400000000) :
    clockChars m < clockChars n := by
  have horder : m / 1000000 / 3600 < n / 1000000 / 3600 ∨
      m / 1000000 / 3600 = n / 1000000 / 3600 ∧
        (m / 1000000 / 60 % 60 < n / 1000000 / 60 % 60 ∨
          m / 1000000 / 60 % 60 = n / 1000000 / 60 % 60 ∧
            (m / 1000000 % 60 < n / 1000000 % 60 ∨
              m / 1000000 % 60 = n / 1000000 % 60 ∧ m % 1000000 < n % 1000000)) := by
    omega
  rw [clockChars, clockChars]
  refine field_lt (by omega) (horder.imp id fun ⟨hhours, h⟩ => ⟨hhours, mark_lt ?_⟩)
  refine field_lt (by omega) (h.imp id fun ⟨hminutes, h⟩ => ⟨hminutes, mark_lt ?_⟩)
  exact field_lt (by omega)
    (h.imp id fun ⟨hseconds, h⟩ => ⟨hseconds, fractionText_lt h (Nat.mod_lt _ (by decide))⟩)

lemma toList_sortText (ht : t.Universal) :
    t.sortText.toList =
      decimals 4 t.date.year.toNat ++ '-' :: (decimals 2 t.date.month ++ '-' ::
        (decimals 2 t.date.day ++ 'T' :: clockChars t.timeOfDay)) := by
  have hproper : t.date.Proper := CivilDate.ofDays_proper _
  have hmonth := hproper.month_le
  have hday := hproper.day_le
  have htime : t.timeOfDay < 86400000000 := by
    unfold timeOfDay
    omega
  have hfraction : t.fraction < 1000000 := Nat.mod_lt _ (by decide)
  have hyears := ht.counted
  simp only [hasCountedYear, Bool.and_eq_true, decide_eq_true_eq] at hyears
  have hoffset : t.offsetText = "+00:00" := by
    simp only [offsetText, ht.offset]
    rfl
  have hyear := toList_padded (w := 4) (n := t.date.year.toNat) (by decide) (by omega)
  have htwo : ∀ n, n < 100 → (padded 2 n).toList = decimals 2 n :=
    fun n hn => toList_padded (by decide) hn
  have hzone : (if t.fraction = 0 then "" else "." ++ padded 6 t.fraction).toList ++
      "+00:00".toList = fractionText t.fraction := by
    rw [fractionText]
    split
    · rfl
    · rw [String.toList_append, toList_padded (by decide) hfraction]
      rfl
  rw [sortText, hoffset, localText, clockChars, ← fraction, ← hzone, ← hyear,
    ← htwo _ (by omega), ← htwo _ (by omega), ← htwo (_ / 3600) (by omega),
    ← htwo (_ % 60) (by omega), ← htwo (_ % 60) (by omega)]
  have hmarks : "-".toList = ['-'] ∧ ":".toList = [':'] ∧ "T".toList = ['T'] := by decide
  simp only [dateText, clockText, String.toList_append, toString, List.append_assoc, hmarks,
    List.cons_append, List.nil_append]

lemma sortText_lt (ht : t.Universal) (hu : u.Universal) (h : t.micros < u.micros) :
    t.sortText < u.sortText := by
  rw [String.lt_iff, toList_sortText ht, toList_sortText hu]
  have hproper : u.date.Proper := CivilDate.ofDays_proper _
  have hmonth := hproper.month_le
  have hday := hproper.day_le
  have hyears := hu.counted
  have hyears' := ht.counted
  simp only [hasCountedYear, Bool.and_eq_true, decide_eq_true_eq] at hyears hyears'
  have hlocal : t.localMicros < u.localMicros := by
    rw [localMicros, localMicros, ht.offset, hu.offset]
    omega
  have htime : u.timeOfDay < 86400000000 := by
    unfold timeOfDay
    omega
  have horder : t.date.Before u.date ∨ t.date = u.date ∧ t.timeOfDay < u.timeOfDay := by
    rcases lt_or_ge (t.localMicros / 86400000000) (u.localMicros / 86400000000) with hd | hd
    · exact .inl (CivilDate.ofDays_before hd)
    · have heq : t.localMicros / 86400000000 = u.localMicros / 86400000000 := by omega
      refine .inr ⟨by rw [date, date, heq], ?_⟩
      unfold timeOfDay
      omega
  refine field_lt (by omega) ?_
  rcases horder with (hyear | ⟨hyear, hmonth | ⟨hmonth, hday⟩⟩) | ⟨hdate, hclock⟩
  · exact .inl (by omega)
  · exact .inr ⟨by rw [hyear], mark_lt (field_lt (by omega) (.inl hmonth))⟩
  · exact .inr ⟨by rw [hyear],
      mark_lt (field_lt (by omega) (.inr ⟨hmonth, mark_lt (field_lt (by omega) (.inl hday))⟩))⟩
  · rw [hdate]
    exact .inr ⟨rfl, mark_lt (List.append_left_lt
      (mark_lt (List.append_left_lt (mark_lt (clockChars_lt hclock htime)))))⟩

lemma Universal.eq (ht : t.Universal) (hu : u.Universal) (h : t.micros = u.micros) : t = u := by
  have hoffset := ht.offset.trans hu.offset.symm
  cases t
  cases u
  simp_all

lemma sortText_le (ht : t.Universal) (hu : u.Universal) (h : t.micros ≤ u.micros) :
    t.sortText ≤ u.sortText := by
  rcases h.lt_or_eq with hlt | heq
  · exact String.not_lt.mp (String.lt_asymm (sortText_lt ht hu hlt))
  · obtain rfl := ht.eq hu heq
    exact String.le_refl _

end Instant

end Workflow
