/-!
Finite binary floating-point numbers with 53 significant bits and exponents down to -1074, as exact
values. Rounding is to the nearest number, a tie going to the even significand.
-/

namespace Workflow

/-- The number `± mantissa * 2 ^ exponent` in lowest terms: the mantissa is odd, or mantissa and
exponent are both zero. The sign of zero is kept. -/
structure Binary64 where
  negative : Bool
  mantissa : Nat
  exponent : Int
deriving DecidableEq, Repr

namespace Binary64

def twoTo (n : Nat) : Nat := Nat.pow 2 n

def tenTo (n : Nat) : Nat := Nat.pow 10 n

def lowestTerms (negative : Bool) (m : Nat) (e : Int) : Binary64 :=
  if h : m = 0 then ⟨negative, 0, 0⟩
  else if m % 2 = 0 then lowestTerms negative (m / 2) (e + 1)
  else ⟨negative, m, e⟩
termination_by m
decreasing_by omega

def roundDiv (num den : Nat) : Nat :=
  let q := num / den
  let r := num % den
  if 2 * r < den then q else if den < 2 * r then q + 1 else if q % 2 = 0 then q else q + 1

def scaleDown (num den : Nat) (e : Int) : Nat × Nat :=
  if e < 0 then (num * twoTo (-e).toNat, den) else (num, den * twoTo e.toNat)

def unitExponent (num den : Nat) : Int :=
  let e : Int := (num.log2 : Int) - den.log2 - 52
  let (n, d) := scaleDown num den e
  max (-1074) (if n / d < twoTo 52 then e - 1 else if n / d < twoTo 53 then e else e + 1)

def ofRatio (negative : Bool) (num den : Nat) : Option Binary64 :=
  if num = 0 then some ⟨negative, 0, 0⟩
  else
    let e := unitExponent num den
    let (n, d) := scaleDown num den e
    let m := roundDiv n d
    if twoTo 1024 ≤ m * twoTo e.toNat then none else some (lowestTerms negative m e)

def ofDecimal (negative : Bool) (digits : Nat) (e : Int) : Option Binary64 :=
  if digits = 0 then some ⟨negative, 0, 0⟩
  else
    let size := (Nat.toDigits 10 digits).length
    if 310 < e + size then none
    else if e + size < -330 then some ⟨negative, 0, 0⟩
    else if e < 0 then ofRatio negative digits (tenTo (-e).toNat)
    else ofRatio negative (digits * tenTo e.toNat) 1

def ofInt (n : Int) : Option Binary64 := ofRatio (n < 0) n.natAbs 1

def ofBool (b : Bool) : Binary64 := if b then ⟨false, 1, 0⟩ else ⟨false, 0, 0⟩

def largest (negative : Bool) : Binary64 := ⟨negative, twoTo 53 - 1, 971⟩

def isZero (x : Binary64) : Bool := x.mantissa == 0

def ratio (x : Binary64) : Nat × Nat :=
  if x.exponent < 0 then (x.mantissa, twoTo (-x.exponent).toNat)
  else (x.mantissa * twoTo x.exponent.toNat, 1)

def isWhole (x : Binary64) : Bool := 0 ≤ x.exponent

def truncate (x : Binary64) : Int :=
  let n : Int := (x.ratio.1 / x.ratio.2 : Nat)
  if x.negative then -n else n

def isPositive (x : Binary64) : Bool := !x.negative && !x.isZero

def sameValue (x y : Binary64) : Bool := x == y || x.isZero && y.isZero

def equalsInt (x : Binary64) (n : Int) : Bool := x.isWhole && x.truncate == n

end Binary64

end Workflow
