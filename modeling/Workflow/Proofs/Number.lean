import Mathlib
import Workflow.Number.Floating

/-! Numbers and the decimals that stand for them. -/

namespace Workflow

namespace Binary64

variable {num den num' den' m : ℕ} {e : ℤ}

lemma twoTo_cast (n : ℕ) : ((twoTo n : ℕ) : ℚ) = 2 ^ n := by
  simp [twoTo]

lemma tenTo_cast (n : ℕ) : ((tenTo n : ℕ) : ℚ) = 10 ^ n := by
  simp [tenTo]

lemma twoTo_pos (n : ℕ) : 0 < twoTo n := Nat.pow_pos (by decide)

lemma tenTo_pos (n : ℕ) : 0 < tenTo n := Nat.pow_pos (by decide)

lemma zpow_of_neg {b : ℚ} (h : e < 0) : b ^ e = (b ^ (-e).toNat)⁻¹ := by
  rw [← zpow_natCast, Int.toNat_of_nonneg (by omega), zpow_neg, inv_inv]

lemma zpow_of_nonneg {b : ℚ} (h : ¬ e < 0) : b ^ e = b ^ e.toNat := by
  rw [← zpow_natCast, Int.toNat_of_nonneg (by omega)]

lemma scaleDown_pos (num : ℕ) (hd : 0 < den) (e : ℤ) : 0 < (scaleDown num den e).2 := by
  rw [scaleDown]
  split
  · exact hd
  · exact Nat.mul_pos hd (twoTo_pos _)

lemma scaleDown_div (num den : ℕ) (e : ℤ) :
    ((scaleDown num den e).1 : ℚ) / (scaleDown num den e).2 = num / den / 2 ^ e := by
  rw [scaleDown]
  split
  · rename_i he
    rw [zpow_of_neg he]
    push_cast
    rw [twoTo_cast]
    field_simp
  · rename_i he
    rw [zpow_of_nonneg he]
    push_cast
    rw [twoTo_cast, div_div]

lemma scale_pos (num : ℕ) (hd : 0 < den) (e : ℤ) : 0 < (Digits.scale num den e).2 := by
  rw [Digits.scale]
  split
  · exact hd
  · exact Nat.mul_pos hd (tenTo_pos _)

lemma scale_div (num den : ℕ) (e : ℤ) :
    ((Digits.scale num den e).1 : ℚ) / (Digits.scale num den e).2 = num / den / 10 ^ e := by
  rw [Digits.scale]
  split
  · rename_i he
    rw [zpow_of_neg he]
    push_cast
    rw [tenTo_cast]
    field_simp
  · rename_i he
    rw [zpow_of_nonneg he]
    push_cast
    rw [tenTo_cast, div_div]

/-! Quotients rounded to the nearest natural number -/

lemma roundDiv_eq_of_near {n : ℕ} (hlow : 2 * n * den < 2 * num + den)
    (hhigh : 2 * num < 2 * n * den + den) : roundDiv num den = n := by
  have hd : 0 < den := by
    by_contra h
    obtain rfl : den = 0 := by omega
    simp at hlow hhigh
  have hdiv := Nat.div_add_mod num den
  have hmod := Nat.mod_lt num hd
  have hq : num / den = n ∧ 2 * (num % den) < den ∨
      num / den + 1 = n ∧ den < 2 * (num % den) := by
    generalize num / den = q, num % den = r at *
    have hle : n ≤ q + 1 := by
      by_contra hlt
      nlinarith [Nat.mul_le_mul_right den (show q + 2 ≤ n by omega)]
    have hge : q ≤ n := by
      by_contra hlt
      nlinarith [Nat.mul_le_mul_right den (show n + 1 ≤ q by omega)]
    rcases (show n = q ∨ n = q + 1 by omega) with rfl | rfl
    · exact .inl ⟨rfl, by nlinarith⟩
    · exact .inr ⟨rfl, by nlinarith⟩
  simp only [roundDiv]
  rcases hq with ⟨hq, hr⟩ | ⟨hq, hr⟩
  · rw [if_pos hr, hq]
  · rw [if_neg (by omega), if_pos hr, hq]

lemma roundDiv_mul (hk : 0 < m) : roundDiv (num * m) (den * m) = roundDiv num den := by
  simp only [roundDiv]
  rw [Nat.mul_div_mul_right _ _ hk, Nat.mul_mod_mul_right, ← mul_assoc]
  simp only [Nat.mul_lt_mul_right hk]

lemma roundDiv_congr (hd : 0 < den) (hd' : 0 < den') (h : (num : ℚ) / den = num' / den') :
    roundDiv num den = roundDiv num' den' := by
  have hcross : num * den' = num' * den := by
    rw [div_eq_div_iff (by positivity) (by positivity)] at h
    exact_mod_cast h
  rw [← roundDiv_mul hd', hcross, mul_comm den den', roundDiv_mul hd]

lemma roundDiv_near (num : ℕ) (hd : 0 < den) :
    2 * roundDiv num den * den ≤ 2 * num + den ∧ 2 * num ≤ 2 * roundDiv num den * den + den := by
  have hdiv := Nat.div_add_mod num den
  have hmod := Nat.mod_lt num hd
  simp only [roundDiv]
  generalize num / den = q, num % den = r at *
  split
  · constructor <;> nlinarith
  · split
    · constructor <;> nlinarith
    · split <;> constructor <;> nlinarith

lemma roundDiv_abs (num : ℕ) (hd : 0 < den) : |(roundDiv num den : ℚ) - num / den| ≤ 1 / 2 := by
  obtain ⟨hlow, hhigh⟩ := roundDiv_near num hd
  have hd₀ : (0 : ℚ) < den := by exact_mod_cast hd
  have hlow' : (2 * roundDiv num den * den : ℚ) ≤ 2 * num + den := by exact_mod_cast hlow
  have hhigh' : (2 * num : ℚ) ≤ 2 * roundDiv num den * den + den := by exact_mod_cast hhigh
  have hle : (num : ℚ) / den ≤ roundDiv num den + 1 / 2 := by
    rw [div_le_iff₀ hd₀]
    linarith
  have hge : (roundDiv num den : ℚ) - 1 / 2 ≤ num / den := by
    rw [le_div_iff₀ hd₀]
    linarith
  rw [abs_le]
  constructor <;> linarith

/-! Exponents -/

lemma log_div {b i j : ℕ} (hb : 1 < b) (hi : b ^ i ≤ num) (hi' : num < b ^ (i + 1))
    (hj : b ^ j ≤ den) (hj' : den < b ^ (j + 1)) :
    Int.log b ((num : ℚ) / den) =
      if (num : ℚ) / den < (b : ℚ) ^ ((i : ℤ) - j) then (i : ℤ) - j - 1 else i - j := by
  have hb₀ : (0 : ℚ) < b := by exact_mod_cast (show 0 < b by omega)
  have h₁ : (b : ℚ) ^ i ≤ num := by exact_mod_cast hi
  have h₂ : (num : ℚ) < b ^ (i + 1) := by exact_mod_cast hi'
  have h₃ : (b : ℚ) ^ j ≤ den := by exact_mod_cast hj
  have h₄ : (den : ℚ) < b ^ (j + 1) := by exact_mod_cast hj'
  have hnum : (0 : ℚ) < num := lt_of_lt_of_le (by positivity) h₁
  have hden : (0 : ℚ) < den := lt_of_lt_of_le (by positivity) h₃
  have hlow : (b : ℚ) ^ ((i : ℤ) - j - 1) ≤ num / den := by
    have heq : (b : ℚ) ^ ((i : ℤ) - j - 1) = b ^ i / b ^ (j + 1) := by
      rw [sub_sub, zpow_sub₀ hb₀.ne']
      norm_cast
    rw [heq, div_le_div_iff₀ (by positivity) hden]
    exact mul_le_mul h₁ h₄.le hden.le hnum.le
  have hhigh : (num : ℚ) / den < b ^ ((i : ℤ) - j + 1) := by
    have heq : (b : ℚ) ^ ((i : ℤ) - j + 1) = b ^ (i + 1) / b ^ j := by
      rw [sub_add_eq_add_sub, zpow_sub₀ hb₀.ne']
      norm_cast
    rw [heq, div_lt_div_iff₀ hden (by positivity)]
    exact mul_lt_mul h₂ h₃ (by positivity) (by positivity)
  have hq : (0 : ℚ) < num / den := div_pos hnum hden
  rw [Int.zpow_le_iff_le_log hb hq] at hlow
  rw [Int.lt_zpow_iff_log_lt hb hq] at hhigh
  split <;> rename_i h <;> rw [Int.lt_zpow_iff_log_lt hb hq] at h <;> omega

lemma le_log_iff {q : ℚ} (hq : 0 < q) (e : ℤ) (k : ℕ) :
    e + k ≤ Int.log 2 q ↔ (2 : ℚ) ^ k ≤ q / 2 ^ e := by
  rw [← Int.zpow_le_iff_le_log (by decide) hq, add_comm, Nat.cast_ofNat, zpow_add₀ (by norm_num),
    zpow_natCast, le_div_iff₀ (by positivity)]

lemma unitExponent_eq (hn : 0 < num) (hd : 0 < den) :
    unitExponent num den = max (-1074) (Int.log 2 ((num : ℚ) / den) - 52) := by
  have hlog := log_div (b := 2) (by decide) (Nat.log2_self_le hn.ne') Nat.lt_log2_self
    (Nat.log2_self_le hd.ne') Nat.lt_log2_self
  simp only [unitExponent]
  generalize (num.log2 : ℤ) - den.log2 = k at hlog ⊢
  have hq : (0 : ℚ) < num / den := by positivity
  have hpos := scaleDown_pos num hd (k - 52)
  have hdiv := scaleDown_div num den (k - 52)
  generalize scaleDown num den (k - 52) = p at hpos hdiv
  obtain ⟨n, d⟩ := p
  have hless : ∀ i : ℕ, n / d < twoTo i ↔ (num : ℚ) / den < 2 ^ (k - 52 + i) := by
    intro i
    rw [Nat.div_lt_iff_lt_mul hpos, zpow_add₀ (by norm_num), ← div_lt_iff₀' (by positivity), ← hdiv,
      div_lt_iff₀ (by exact_mod_cast hpos), zpow_natCast, ← twoTo_cast]
    norm_cast
  have h₅₃ : (num : ℚ) / den < 2 ^ (k - 52 + (53 : ℕ)) := by
    have hle : Int.log 2 ((num : ℚ) / den) < k - 52 + (53 : ℕ) := by
      rw [hlog]
      split <;> push_cast <;> omega
    exact_mod_cast (Int.lt_zpow_iff_log_lt (b := 2) (by decide) hq).mpr hle
  have h₅₂ : k - 52 + (52 : ℕ) = k := by push_cast; omega
  simp only [hless, h₅₃, if_true, h₅₂]
  congr 1
  rw [hlog]
  push_cast
  split <;> omega

lemma length_toDigits_bounds (hn : 0 < num) :
    10 ^ ((Nat.toDigits 10 num).length - 1) ≤ num ∧ num < 10 ^ (Nat.toDigits 10 num).length := by
  have hpos := Nat.length_toDigits_pos (b := 10) (n := num)
  refine ⟨?_, (Nat.length_toDigits_le_iff (by decide) hpos).mp le_rfl⟩
  by_contra hlt
  rcases Nat.eq_zero_or_pos ((Nat.toDigits 10 num).length - 1) with h | h
  · rw [h, pow_zero] at hlt
    omega
  · have hle := (Nat.length_toDigits_le_iff (b := 10) (by decide) h).mpr (by omega : num < _)
    omega

lemma magnitude_eq (hn : 0 < num) (hd : 0 < den) :
    Digits.magnitude num den = Int.log 10 ((num : ℚ) / den) := by
  obtain ⟨hi, hi'⟩ := length_toDigits_bounds hn
  obtain ⟨hj, hj'⟩ := length_toDigits_bounds hd
  have hnum := Nat.length_toDigits_pos (b := 10) (n := num)
  have hden := Nat.length_toDigits_pos (b := 10) (n := den)
  have hlog := log_div (b := 10) (i := (Nat.toDigits 10 num).length - 1)
    (j := (Nat.toDigits 10 den).length - 1) (by decide) hi (by rwa [Nat.sub_add_cancel hnum]) hj
    (by rwa [Nat.sub_add_cancel hden])
  have hguess : (((Nat.toDigits 10 num).length - 1 : ℕ) : ℤ) -
      ((Nat.toDigits 10 den).length - 1 : ℕ) =
      (Nat.toDigits 10 num).length - (Nat.toDigits 10 den).length := by
    omega
  rw [hguess] at hlog
  rw [hlog]
  simp only [Digits.magnitude]
  generalize ((Nat.toDigits 10 num).length : ℤ) - (Nat.toDigits 10 den).length = k
  have hbelow : (if k < 0 then num * tenTo (-k).toNat < den else num < den * tenTo k.toNat) ↔
      (num : ℚ) / den < 10 ^ k := by
    split
    · rename_i hk
      rw [zpow_of_neg hk, div_lt_iff₀ (by positivity), inv_mul_eq_div, lt_div_iff₀ (by positivity),
        ← tenTo_cast]
      norm_cast
    · rename_i hk
      rw [zpow_of_nonneg hk, div_lt_iff₀' (by positivity), ← tenTo_cast]
      norm_cast
  simp only [hbelow, Nat.cast_ofNat]

lemma twoTo_succ (n : ℕ) : twoTo (n + 1) = 2 * twoTo n := by
  rw [twoTo, twoTo, Nat.pow_eq, Nat.pow_eq, pow_succ']

lemma greatest_lt : 2 * 2 ^ 52 * twoTo 0 < twoTo 1024 := by decide +kernel

/-! Numbers by mantissa and exponent -/

attribute [local irreducible] twoTo tenTo

lemma lowestTerms_two_mul {negative : Bool} (hm : 0 < m) (e : ℤ) :
    lowestTerms negative (2 * m) e = lowestTerms negative m (e + 1) := by
  rw [lowestTerms, dif_neg (by omega), if_pos (by omega), Nat.mul_div_cancel_left m (by decide)]

lemma lowestTerms_negative (negative : Bool) (m : ℕ) (e : ℤ) :
    (lowestTerms negative m e).negative = negative := by
  fun_induction lowestTerms negative m e with
  | case1 => rfl
  | case2 m e hm heven ih => exact ih
  | case3 => rfl

lemma lowestTerms_value (negative : Bool) (m : ℕ) (e : ℤ) :
    ((lowestTerms negative m e).mantissa : ℚ) * 2 ^ (lowestTerms negative m e).exponent =
      m * 2 ^ e := by
  fun_induction lowestTerms negative m e with
  | case1 => simp
  | case2 m e hm heven ih =>
    have hhalf : (m : ℚ) = (m / 2 : ℕ) * 2 := by
      exact_mod_cast (Nat.div_mul_cancel (Nat.dvd_of_mod_eq_zero heven)).symm
    rw [ih, zpow_add_one₀ (by norm_num)]
    rw [hhalf]
    ring
  | case3 => rfl

lemma ratio_pos (x : Binary64) : 0 < x.ratio.2 := by
  rw [ratio]
  split
  · exact twoTo_pos _
  · exact Nat.one_pos

lemma ratio_div (x : Binary64) : (x.ratio.1 : ℚ) / x.ratio.2 = x.mantissa * 2 ^ x.exponent := by
  rw [ratio]
  split
  · rename_i h
    rw [zpow_of_neg h, twoTo_cast, div_eq_mul_inv]
  · rename_i h
    rw [zpow_of_nonneg h]
    push_cast
    rw [twoTo_cast, div_one]

/-- The numbers of 53 binary digits at most, in the places that there are. -/
structure Sound (m : ℕ) (e : ℤ) : Prop where
  pos : 0 < m
  less : m < 2 ^ 53
  least : -1074 ≤ e
  full : 2 ^ 52 ≤ m ∨ e = -1074
  bounded : m * twoTo e.toNat < twoTo 1024

lemma ofRatio_congr {negative : Bool} (hn : 0 < num) (hd : 0 < den) (hd' : 0 < den')
    (h : (num : ℚ) / den = num' / den') :
    ofRatio negative num den = ofRatio negative num' den' := by
  have hn' : 0 < num' := by
    rcases Nat.eq_zero_or_pos num' with rfl | hpos
    · have hq : (0 : ℚ) < num / den := by positivity
      rw [h, Nat.cast_zero, zero_div] at hq
      exact absurd hq (lt_irrefl _)
    · exact hpos
  have he : unitExponent num den = unitExponent num' den' := by
    rw [unitExponent_eq hn hd, unitExponent_eq hn' hd', h]
  have hm : roundDiv (scaleDown num den (unitExponent num den)).1
      (scaleDown num den (unitExponent num den)).2 =
      roundDiv (scaleDown num' den' (unitExponent num den)).1
        (scaleDown num' den' (unitExponent num den)).2 := by
    apply roundDiv_congr (scaleDown_pos num hd _) (scaleDown_pos num' hd' _)
    rw [scaleDown_div, scaleDown_div, h]
  simp only [ofRatio, if_neg hn.ne', if_neg hn'.ne']
  rw [hm, he]

/-- In units of its last place a number takes 53 binary digits, or it is among the least. -/
lemma scaleDown_bounds (hn : 0 < num) (hd : 0 < den) (he : unitExponent num den = e) :
    (scaleDown num den e).1 < 2 ^ 53 * (scaleDown num den e).2 ∧
      (2 ^ 52 * (scaleDown num den e).2 ≤ (scaleDown num den e).1 ∨ e = -1074) := by
  have hq : (0 : ℚ) < num / den := by positivity
  have hdiv := scaleDown_div num den e
  have hpos : (0 : ℚ) < (scaleDown num den e).2 := by exact_mod_cast scaleDown_pos num hd e
  rw [unitExponent_eq hn hd] at he
  refine ⟨?_, or_iff_not_imp_right.mpr fun hne => ?_⟩
  · have hlt : ¬ (2 : ℚ) ^ 53 ≤ num / den / 2 ^ e := by
      rw [← le_log_iff hq]
      push_cast
      omega
    rw [not_le, ← hdiv, div_lt_iff₀ hpos] at hlt
    exact_mod_cast hlt
  · have hle : (2 : ℚ) ^ 52 ≤ num / den / 2 ^ e := by
      rw [← le_log_iff hq]
      push_cast
      omega
    rw [← hdiv, le_div_iff₀ hpos] at hle
    exact_mod_cast hle

lemma unitExponent_of_units (hn : 0 < num) (hd : 0 < den) (hleast : -1074 ≤ e)
    (hless : (num : ℚ) / den / 2 ^ e < 2 ^ 53)
    (hfull : (2 : ℚ) ^ 52 ≤ num / den / 2 ^ e ∨ e = -1074) : unitExponent num den = e := by
  have hq : (0 : ℚ) < num / den := by positivity
  rw [← not_le, ← le_log_iff hq] at hless
  rw [← le_log_iff hq] at hfull
  rw [unitExponent_eq hn hd]
  push_cast at hless hfull
  omega

lemma exists_sound {negative : Bool} {x : Binary64} (hn : 0 < num) (hd : 0 < den)
    (h : ofRatio negative num den = some x) (hx : x.isZero = false) :
    ∃ m e, Sound m e ∧ x = lowestTerms negative m e := by
  have hleast : -1074 ≤ unitExponent num den := unitExponent_eq hn hd ▸ le_max_left _ _
  have hpos := scaleDown_pos num hd (unitExponent num den)
  obtain ⟨hless, hfull⟩ := scaleDown_bounds hn hd rfl
  simp only [ofRatio, if_neg hn.ne'] at h
  generalize unitExponent num den = e at *
  generalize (scaleDown num den e).1 = n, (scaleDown num den e).2 = d at *
  split at h
  · cases h
  rename_i hbound
  obtain rfl := Option.some.inj h
  obtain ⟨hnear, hnear'⟩ := roundDiv_near n hpos
  generalize roundDiv n d = m at *
  have hm : 0 < m := by
    rcases Nat.eq_zero_or_pos m with rfl | hm
    · rw [lowestTerms, dif_pos rfl] at hx
      cases hx
    · exact hm
  have hle : m ≤ 2 ^ 53 := by
    by_contra hlt
    nlinarith [Nat.mul_le_mul_right d (show 2 ^ 53 + 1 ≤ m by omega)]
  have hge : 2 ^ 52 ≤ m ∨ e = -1074 := by
    refine hfull.imp_left fun hf => ?_
    by_contra hlt
    nlinarith [Nat.mul_le_mul_right d (show m + 1 ≤ 2 ^ 52 by omega)]
  rw [not_le] at hbound
  rcases hle.lt_or_eq with hlt | rfl
  · exact ⟨m, e, ⟨hm, hlt, hleast, hge, hbound⟩, rfl⟩
  -- Rounding has carried into a digit more: half the mantissa stands a place higher.
  · refine ⟨2 ^ 52, e + 1, ⟨by norm_num, by norm_num, by omega, .inl le_rfl, ?_⟩, ?_⟩
    · rcases Int.lt_or_le e 0 with he | he
      · have hz : (e + 1).toNat = 0 := by omega
        rw [hz]
        decide +kernel
      · have hs : (e + 1).toNat = e.toNat + 1 := by omega
        rw [hs, twoTo_succ]
        linarith
    · exact lowestTerms_two_mul (m := 2 ^ 52) (by norm_num) e

lemma roundDiv_of_abs {n d k : ℕ} (hd : 0 < d) (h : |(n : ℚ) / d - k| < 1 / 2) :
    roundDiv n d = k := by
  have hd₀ : (0 : ℚ) < d := by exact_mod_cast hd
  obtain ⟨hlow, hhigh⟩ := abs_lt.mp h
  rw [lt_sub_iff_add_lt, lt_div_iff₀ hd₀] at hlow
  rw [sub_lt_iff_lt_add, div_lt_iff₀ hd₀] at hhigh
  have hlow' : (2 * k * d : ℚ) < 2 * n + d := by linarith
  have hhigh' : (2 * n : ℚ) < 2 * k * d + d := by linarith
  exact roundDiv_eq_of_near (by exact_mod_cast hlow') (by exact_mod_cast hhigh')

lemma ofRatio_of_close {negative : Bool} {k : ℕ} (hn : 0 < num) (hd : 0 < den)
    (he : unitExponent num den = e) (hclose : |(num : ℚ) / den / 2 ^ e - k| < 1 / 2)
    (hbound : k * twoTo e.toNat < twoTo 1024) :
    ofRatio negative num den = some (lowestTerms negative k e) := by
  have hround : roundDiv (scaleDown num den e).1 (scaleDown num den e).2 = k := by
    apply roundDiv_of_abs (scaleDown_pos num hd e)
    rwa [scaleDown_div]
  simp only [ofRatio, if_neg hn.ne', he, hround, if_neg (not_le.mpr hbound)]

lemma abs_units {q : ℚ} (h : |q - m * 2 ^ e| * 2 ^ 54 < m * 2 ^ e) :
    |q / 2 ^ e - m| < m / 2 ^ 54 := by
  have hplace : (0 : ℚ) < 2 ^ e := by positivity
  have heq : |q - m * 2 ^ e| = |q / 2 ^ e - m| * 2 ^ e := by
    rw [← abs_of_pos hplace, ← abs_mul, abs_of_pos hplace, sub_mul, div_mul_cancel₀ _ hplace.ne']
  rw [lt_div_iff₀ (by positivity)]
  rw [heq] at h
  nlinarith

/-- A quotient so near to a number is rounded to it, also just below a power of two, where the last
place is finer and the mantissa twice as large. -/
lemma ofRatio_of_near {negative : Bool} (hn : 0 < num) (hd : 0 < den) (hs : Sound m e)
    (h : |(num : ℚ) / den - m * 2 ^ e| * 2 ^ 54 < m * 2 ^ e) :
    ofRatio negative num den = some (lowestTerms negative m e) := by
  have hm : (m : ℚ) < 2 ^ 53 := by exact_mod_cast hs.less
  have hunits := abs_units h
  generalize hu : (num : ℚ) / den / 2 ^ e = u at hunits
  obtain ⟨hlow, hhigh⟩ := abs_lt.mp hunits
  have hless : u < 2 ^ 53 := by
    have hm' : (m : ℚ) + 1 ≤ 2 ^ 53 := by exact_mod_cast hs.less
    linarith
  by_cases hfull : (2 : ℚ) ^ 52 ≤ u ∨ e = -1074
  · refine ofRatio_of_close hn hd (unitExponent_of_units hn hd hs.least ?_ ?_) ?_ hs.bounded
    · rwa [hu]
    · rwa [hu]
    · rw [hu]
      exact hunits.trans (by linarith)
  · rw [not_or, not_le] at hfull
    obtain ⟨hfine, hne⟩ := hfull
    have hm₅₂ : m = 2 ^ 52 := by
      apply le_antisymm _ (hs.full.resolve_right hne)
      have hlt : (m : ℚ) < 2 ^ 52 + 1 := by linarith
      have hlt' : m < 2 ^ 52 + 1 := by exact_mod_cast hlt
      omega
    subst hm₅₂
    have htwice : (num : ℚ) / den / 2 ^ (e - 1) = 2 * u := by
      rw [zpow_sub_one₀ (by norm_num), ← hu]
      field_simp
    push_cast at hlow hhigh
    have hleast := hs.least
    rw [← sub_add_cancel e 1, ← lowestTerms_two_mul (by norm_num)]
    refine ofRatio_of_close hn hd (unitExponent_of_units hn hd (by omega) ?_ (.inl ?_)) ?_ ?_
    · rw [htwice]
      linarith
    · rw [htwice]
      linarith
    · rw [htwice, abs_lt]
      push_cast
      constructor <;> linarith
    · have hbound := hs.bounded
      rcases Int.lt_or_le (e - 1) 0 with he | he
      · have hz : (e - 1).toNat = 0 := by omega
        rw [hz]
        exact greatest_lt
      · have hsucc : e.toNat = (e - 1).toNat + 1 := by omega
        rw [hsucc, twoTo_succ] at hbound
        linarith

/-! Decimals -/

lemma toDigits_mul_pow (hn : 0 < num) (z : ℕ) :
    Nat.toDigits 10 (num * 10 ^ z) = Nat.toDigits 10 num ++ List.replicate z '0' := by
  induction z with
  | zero => simp
  | succ z ih =>
    have happend := Nat.toDigits_append_toDigits (b := 10) (n := num * 10 ^ z) (d := 0) (by decide)
      (by positivity) (by decide)
    rw [ih, Nat.toDigits_zero, List.append_assoc, ← List.replicate_succ'] at happend
    rw [happend, add_zero, pow_succ]
    congr 1
    ring

/-- Decimals within reach are rounded as fractions. -/
lemma ofDecimal_eq_ofRatio (negative : Bool) (hn : 0 < num)
    (hlow : -330 ≤ e + (Nat.toDigits 10 num).length)
    (hhigh : e + (Nat.toDigits 10 num).length ≤ 310) :
    ∃ a b : ℕ, 0 < a ∧ 0 < b ∧ (a : ℚ) / b = num * 10 ^ e ∧
      ofDecimal negative num e = ofRatio negative a b := by
  rw [ofDecimal, if_neg hn.ne']
  simp only [if_neg (not_lt.mpr hlow), if_neg (not_lt.mpr hhigh)]
  split
  · rename_i he
    refine ⟨num, tenTo (-e).toNat, hn, tenTo_pos _, ?_, rfl⟩
    rw [tenTo_cast, zpow_of_neg he, div_eq_mul_inv]
  · rename_i he
    refine ⟨num * tenTo e.toNat, 1, Nat.mul_pos hn (tenTo_pos _), Nat.one_pos, ?_, rfl⟩
    push_cast
    rw [tenTo_cast, zpow_of_nonneg he, div_one]

lemma ofDecimal_mul_pow {negative : Bool} (num z : ℕ) (e : ℤ) :
    ofDecimal negative (num * 10 ^ z) e = ofDecimal negative num (e + z) := by
  rcases Nat.eq_zero_or_pos num with rfl | hn
  · simp [ofDecimal]
  have hn' : 0 < num * 10 ^ z := by positivity
  have hlength :
      ((Nat.toDigits 10 (num * 10 ^ z)).length : ℤ) = (Nat.toDigits 10 num).length + z := by
    rw [toDigits_mul_pow hn, List.length_append, List.length_replicate, Nat.cast_add]
  by_cases hhigh : e + z + (Nat.toDigits 10 num).length ≤ 310
  · by_cases hlow : -330 ≤ e + z + (Nat.toDigits 10 num).length
    · obtain ⟨a, b, ha, hb, hab, heq⟩ := ofDecimal_eq_ofRatio negative hn hlow hhigh
      obtain ⟨a', b', ha', hb', hab', heq'⟩ :=
        ofDecimal_eq_ofRatio (e := e) negative hn' (by omega) (by omega)
      rw [heq, heq']
      apply ofRatio_congr ha' hb' hb
      rw [hab, hab', zpow_add₀ (by norm_num), zpow_natCast]
      push_cast
      ring
    · rw [ofDecimal, ofDecimal, if_neg hn.ne', if_neg hn'.ne']
      simp only
      rw [if_neg (by omega), if_pos (by omega), if_neg (by omega), if_pos (by omega)]
  · rw [ofDecimal, ofDecimal, if_neg hn.ne', if_neg hn'.ne']
    simp only
    rw [if_pos (by omega), if_pos (by omega)]

/-- The number is the nearest to some fraction. -/
def Proper (x : Binary64) : Prop :=
  ∃ num den, 0 < den ∧ ofRatio x.negative num den = some x

lemma ofRatio_negative {negative : Bool} {x : Binary64} (h : ofRatio negative num den = some x) :
    x.negative = negative := by
  simp only [ofRatio] at h
  split at h
  · obtain rfl := Option.some.inj h
    rfl
  · split at h
    · cases h
    · obtain rfl := Option.some.inj h
      exact lowestTerms_negative ..

lemma proper_of_ofRatio {negative : Bool} {x : Binary64} (hd : 0 < den)
    (h : ofRatio negative num den = some x) : x.Proper :=
  ⟨num, den, hd, (ofRatio_negative h).symm ▸ h⟩

lemma proper_zero (negative : Bool) : Proper ⟨negative, 0, 0⟩ := ⟨0, 1, Nat.one_pos, rfl⟩

lemma proper_of_ofDecimal {negative : Bool} {x : Binary64}
    (h : ofDecimal negative num e = some x) : x.Proper := by
  simp only [ofDecimal] at h
  split at h
  · obtain rfl := Option.some.inj h
    exact proper_zero negative
  split at h
  · cases h
  split at h
  · obtain rfl := Option.some.inj h
    exact proper_zero negative
  split at h
  · exact proper_of_ofRatio (tenTo_pos _) h
  · exact proper_of_ofRatio Nat.one_pos h

lemma Proper.exists_sound {x : Binary64} (h : x.Proper) (hx : x.isZero = false) :
    ∃ m e, Sound m e ∧ x = lowestTerms x.negative m e := by
  obtain ⟨num, den, hd, heq⟩ := h
  rcases Nat.eq_zero_or_pos num with rfl | hn
  · rw [ofRatio, if_pos rfl] at heq
    rw [← Option.some.inj heq] at hx
    cases hx
  · exact Binary64.exists_sound hn hd heq hx

lemma Proper.eq_zero {x : Binary64} (h : x.Proper) (hx : x.isZero = true) :
    x = ⟨x.negative, 0, 0⟩ := by
  obtain ⟨num, den, -, heq⟩ := h
  simp only [ofRatio] at heq
  split at heq
  · exact (Option.some.inj heq).symm
  split at heq
  · cases heq
  have hterms := Option.some.inj heq
  generalize roundDiv _ _ = m at hterms
  generalize unitExponent num den = e at hterms
  have hvalue := lowestTerms_value x.negative m e
  rw [hterms, beq_iff_eq.mp hx, Nat.cast_zero, zero_mul, eq_comm, mul_eq_zero] at hvalue
  have hm : m = 0 := by exact_mod_cast hvalue.resolve_right (by positivity)
  rw [hm, lowestTerms, dif_pos rfl] at hterms
  exact hterms.symm

lemma twoTo_lt_tenTo : twoTo 1024 < tenTo 309 := by decide +kernel

lemma twoTo_le_tenTo : twoTo 1074 ≤ tenTo 324 := by decide +kernel

lemma Sound.log_bounds (h : Sound m e) :
    -324 ≤ Int.log 10 ((m : ℚ) * 2 ^ e) ∧ Int.log 10 ((m : ℚ) * 2 ^ e) < 309 := by
  have hm : (0 : ℚ) < m := by exact_mod_cast h.pos
  have hv : (0 : ℚ) < m * 2 ^ e := by positivity
  rw [← Int.zpow_le_iff_le_log (by decide) hv, ← Int.lt_zpow_iff_log_lt (by decide) hv]
  constructor
  · have hleast : (2 : ℚ) ^ (-1074 : ℤ) ≤ m * 2 ^ e := by
      have hone : (1 : ℚ) ≤ m := by exact_mod_cast h.pos
      have hle : (2 : ℚ) ^ (-1074 : ℤ) ≤ 2 ^ e := zpow_le_zpow_right₀ (by norm_num) h.least
      have hpos : (0 : ℚ) < 2 ^ e := by positivity
      nlinarith
    have hten : (tenTo 324 : ℚ)⁻¹ ≤ (twoTo 1074 : ℚ)⁻¹ := by
      apply inv_anti₀ (by exact_mod_cast twoTo_pos 1074)
      exact_mod_cast twoTo_le_tenTo
    rw [tenTo_cast, twoTo_cast, ← zpow_natCast, ← zpow_natCast, ← zpow_neg, ← zpow_neg] at hten
    exact hten.trans hleast
  · have hbound : (m : ℚ) * 2 ^ e.toNat < 2 ^ 1024 := by
      rw [← twoTo_cast, ← twoTo_cast]
      exact_mod_cast h.bounded
    have hle : (2 : ℚ) ^ e ≤ 2 ^ e.toNat := by
      rw [← zpow_natCast]
      exact zpow_le_zpow_right₀ (by norm_num) (Int.self_le_toNat e)
    have hten : (2 : ℚ) ^ 1024 < 10 ^ 309 := by
      rw [← twoTo_cast, ← tenTo_cast]
      exact_mod_cast twoTo_lt_tenTo
    have hlt : (m : ℚ) * 2 ^ e < 10 ^ 309 :=
      ((mul_le_mul_of_nonneg_left hle hm.le).trans_lt hbound).trans hten
    exact_mod_cast hlt

lemma value_eq {x : Binary64} (h : x = lowestTerms x.negative m e) :
    (x.ratio.1 : ℚ) / x.ratio.2 = m * 2 ^ e := by
  rw [ratio_div, h]
  exact lowestTerms_value ..

lemma ofDecimal_of_near (negative : Bool) {c : ℕ} {t : ℤ} (hs : Sound m e)
    (hc : 10 ^ 17 ≤ c) (hc' : c ≤ 10 ^ 18) (ht : -348 ≤ t) (ht' : t ≤ 291)
    (h : |(c : ℚ) * 10 ^ t - m * 2 ^ e| * 2 ^ 54 < m * 2 ^ e) :
    ofDecimal negative c t = some (lowestTerms negative m e) := by
  have hlength : (Nat.toDigits 10 c).length ≤ 19 := by
    apply (Nat.length_toDigits_le_iff (by decide) (by decide)).mpr
    omega
  have hlength' : 18 ≤ (Nat.toDigits 10 c).length := by
    by_contra hlt
    have hle : (Nat.toDigits 10 c).length ≤ 17 := by omega
    have hlt' := (Nat.length_toDigits_le_iff (b := 10) (by decide) (by decide)).mp hle
    omega
  obtain ⟨a, b, ha, hb, hab, hof⟩ := ofDecimal_eq_ofRatio (e := t) negative
    (show 0 < c by omega) (by omega) (by omega)
  rw [hof]
  apply ofRatio_of_near ha hb hs
  rwa [hab]

lemma near_of_grid {v g : ℚ} {c : ℕ} (hg : 0 < g) (hlow : 10 ^ 17 * g ≤ v) (hhigh : v < 10 ^ 18 * g)
    (hc : |(c : ℚ) - v / g| ≤ 1 / 2) :
    10 ^ 17 ≤ c ∧ c ≤ 10 ^ 18 ∧ |(c : ℚ) * g - v| * 2 ^ 54 < v := by
  obtain ⟨hbelow, habove⟩ := abs_le.mp hc
  rw [← le_div_iff₀ hg] at hlow
  rw [← div_lt_iff₀ hg] at hhigh
  refine ⟨?_, ?_, ?_⟩
  · have hlt : (10 : ℚ) ^ 17 < c + 1 := by linarith
    have hlt' : 10 ^ 17 < c + 1 := by exact_mod_cast hlt
    omega
  · have hlt : (c : ℚ) < 10 ^ 18 + 1 := by linarith
    have hlt' : c < 10 ^ 18 + 1 := by exact_mod_cast hlt
    omega
  · have heq : |(c : ℚ) * g - v| = |c - v / g| * g := by
      rw [← abs_of_pos hg, ← abs_mul, abs_of_pos hg, sub_mul, div_mul_cancel₀ _ hg.ne']
    calc |(c : ℚ) * g - v| * 2 ^ 54 ≤ 1 / 2 * g * 2 ^ 54 := by
          rw [heq]
          gcongr
      _ < 10 ^ 17 * g := by linarith
      _ ≤ v := (le_div_iff₀ hg).mp hlow

/-- Seventeen places below its first digit a number has a decimal that is read as the number. -/
lemma Proper.nearestOnGrid? {x : Binary64} (h : x.Proper) (hx : x.isZero = false) :
    Digits.nearestOnGrid? x (Digits.magnitude x.ratio.1 x.ratio.2 - 17) ≠ none := by
  obtain ⟨m, e, hs, heq⟩ := h.exists_sound hx
  have hden := x.ratio_pos
  have hvalue := value_eq heq
  have hm : (0 : ℚ) < m := by exact_mod_cast hs.pos
  have hv : (0 : ℚ) < m * 2 ^ e := by positivity
  have hnum : 0 < x.ratio.1 := by
    rw [← hvalue, div_pos_iff_of_pos_right (by exact_mod_cast hden)] at hv
    exact_mod_cast hv
  obtain ⟨hleast, hgreatest⟩ := hs.log_bounds
  have hlow := Int.zpow_log_le_self (b := 10) (by decide) hv
  have hhigh := Int.lt_zpow_succ_log_self (b := 10) (by decide) ((m : ℚ) * 2 ^ e)
  rw [magnitude_eq hnum hden, hvalue]
  generalize Int.log 10 ((m : ℚ) * 2 ^ e) = top at *
  have hgrid : (0 : ℚ) < 10 ^ (top - 17) := by positivity
  have htop : (10 : ℚ) ^ top = 10 ^ 17 * 10 ^ (top - 17) := by
    rw [zpow_sub₀ (by norm_num), ← zpow_natCast]
    field_simp
    rfl
  push_cast at hlow hhigh
  rw [zpow_add_one₀ (by norm_num), htop] at hhigh
  rw [htop] at hlow
  have hpos := scale_pos x.ratio.1 hden (top - 17)
  have hround := roundDiv_abs (Digits.scale x.ratio.1 x.ratio.2 (top - 17)).1 hpos
  rw [scale_div, hvalue] at hround
  obtain ⟨hc, hc', hnear⟩ := near_of_grid hgrid hlow (by linarith) hround
  have hreads := ofDecimal_of_near x.negative hs hc hc' (by omega) (by omega) hnear
  rw [← heq] at hreads
  simp only [Digits.nearestOnGrid?]
  rw [if_pos (by simpa using hreads)]
  exact Option.some_ne_none _

lemma ofDecimal_of_nearestOnGrid? {x : Binary64} {c : ℕ}
    (h : Digits.nearestOnGrid? x e = some c) : ofDecimal x.negative c e = some x := by
  have hreads : ∀ k,
      (if (ofDecimal x.negative k e == some x) = true then some k else none) = some c →
        ofDecimal x.negative c e = some x := by
    intro k hk
    split at hk
    · rename_i hback
      obtain rfl := Option.some.inj hk
      exact beq_iff_eq.mp hback
    · cases hk
  simp only [Digits.nearestOnGrid?] at h
  split at h
  · rename_i hback
    obtain rfl := Option.some.inj h
    exact beq_iff_eq.mp hback
  · exact hreads _ h

lemma Proper.shortest_eq {x : Binary64} (h : x.Proper) (hx : x.isZero = false) :
    ∃ c e, 0 < c ∧ ofDecimal x.negative c e = some x ∧ Digits.shortest x = .ofScaled c e := by
  have hgrid := h.nearestOnGrid? hx
  simp only [Digits.shortest, hx, Bool.false_eq_true, if_false]
  generalize Digits.magnitude x.ratio.1 x.ratio.2 = top at *
  obtain ⟨d, hd⟩ : ∃ d, (List.range 18).findSome? (fun i : ℕ =>
      (Digits.nearestOnGrid? x (top - i)).map fun c => Digits.ofScaled c (top - i)) = some d := by
    rw [← Option.isSome_iff_exists, List.findSome?_isSome_iff]
    exact ⟨17, List.mem_range.mpr (by decide), by simpa [Option.isSome_iff_ne_none] using hgrid⟩
  obtain ⟨i, -, hi⟩ := List.exists_of_findSome?_eq_some hd
  obtain ⟨c, hc, rfl⟩ := Option.map_eq_some_iff.mp hi
  have hreads := ofDecimal_of_nearestOnGrid? hc
  refine ⟨c, top - i, ?_, hreads, by rw [hd]; rfl⟩
  rcases Nat.eq_zero_or_pos c with rfl | hpos
  · rw [ofDecimal, if_pos rfl] at hreads
    rw [← Option.some.inj hreads] at hx
    cases hx
  · exact hpos

end Binary64

namespace Digits

/-- Digits that start with no needless zero. -/
structure Plain (d : Digits) : Prop where
  digits : ∀ c ∈ d.digits, c.isDigit = true
  first : ∃ c cs, d.digits = c :: cs ∧ (c = '0' → cs = [] ∧ d.point = 1)

lemma exists_dropTrailingZeros (cs : List Char) :
    ∃ z, cs = dropTrailingZeros cs ++ List.replicate z '0' := by
  have hsplit := List.takeWhile_append_dropWhile (p := (· == '0')) (l := cs.reverse)
  have htake : ∃ z, cs.reverse.takeWhile (· == '0') = List.replicate z '0' := by
    refine ⟨_, List.eq_replicate_iff.mpr ⟨rfl, fun c hc => ?_⟩⟩
    simpa using List.mem_takeWhile_imp hc
  obtain ⟨z, hz⟩ := htake
  refine ⟨z, ?_⟩
  rw [hz] at hsplit
  rw [dropTrailingZeros, ← List.reverse_replicate, ← List.reverse_append, hsplit,
    List.reverse_reverse]

lemma first_toDigits {n : ℕ} (hn : 0 < n) : ∃ c cs, Nat.toDigits 10 n = c :: cs ∧ c ≠ '0' := by
  induction n using Nat.strong_induction_on with
  | _ n ih =>
    rw [Nat.toDigits_eq_if (by decide)]
    split
    · rename_i hlt
      refine ⟨_, [], rfl, ?_⟩
      interval_cases n <;> decide
    · obtain ⟨c, cs, heq, hc⟩ := ih (n / 10) (by omega) (by omega)
      exact ⟨c, _, by rw [heq, List.cons_append], hc⟩

variable {x : Binary64}

lemma shortest_zero (hx : x.isZero = true) : shortest x = ⟨['0'], 1⟩ := by
  rw [shortest, if_pos hx]

/-- What is written of a number are plain digits that stand for it. -/
theorem shortest_reads (h : x.Proper) : (shortest x).Plain ∧
    Binary64.ofDecimal x.negative (Nat.ofDigitChars 10 (shortest x).digits 0)
      ((shortest x).point - (shortest x).digits.length) = some x := by
  by_cases hx : x.isZero = true
  · rw [shortest_zero hx]
    refine ⟨⟨by simp, '0', [], rfl, fun _ => ⟨rfl, rfl⟩⟩, ?_⟩
    exact congrArg some (h.eq_zero hx).symm
  rw [Bool.not_eq_true] at hx
  obtain ⟨c, e, hc, hreads, heq⟩ := h.shortest_eq hx
  rw [heq, ofScaled]
  obtain ⟨z, hz⟩ := exists_dropTrailingZeros (Nat.toDigits 10 c)
  obtain ⟨a, as, hfirst, ha⟩ := first_toDigits hc
  have hdigits : ∀ b ∈ Nat.toDigits 10 c, b.isDigit = true := fun b hb =>
    Nat.isDigit_of_mem_toDigits (by decide) (by decide) hb
  have hvalue := Nat.ofDigitChars_ten_toDigits (n := c)
  generalize hds : dropTrailingZeros (Nat.toDigits 10 c) = ds at hz
  rw [hz] at hfirst hdigits hvalue
  rw [Nat.ofDigitChars_append, Nat.ofDigitChars_replicate_zero] at hvalue
  refine ⟨⟨fun b hb => hdigits b (List.mem_append_left _ hb), ?_⟩, ?_⟩
  · cases ds with
    | nil =>
      simp only [Nat.ofDigitChars_nil, mul_zero] at hvalue
      omega
    | cons b bs =>
      obtain ⟨rfl, -⟩ := List.cons.inj hfirst
      exact ⟨b, bs, rfl, fun h0 => absurd h0 ha⟩
  · have hlength : (e + (Nat.toDigits 10 c).length - ds.length : ℤ) = e + z := by
      rw [hz, List.length_append, List.length_replicate]
      push_cast
      ring
    simp only
    rw [hlength, ← Binary64.ofDecimal_mul_pow, mul_comm, hvalue]
    exact hreads

end Digits

end Workflow
