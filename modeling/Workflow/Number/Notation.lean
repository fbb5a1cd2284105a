import Workflow.Number.Binary64

/-!
The text of floating-point numbers: which digits are written, and how they are laid out.
-/

namespace Workflow

structure Digits where
  digits : List Char
  point : Int
deriving DecidableEq, Repr

/-- Where the digits go: positional notation for points between `leastPoint` and `greatestPoint`,
otherwise one digit before the point and an exponent of at least `exponentWidth` digits. -/
structure Notation where
  leastPoint : Int
  greatestPoint : Int
  exponentWidth : Nat
  exponentPlus : Bool
  wholeMark : Bool

namespace Digits

def dropTrailingZeros (cs : List Char) : List Char := (cs.reverse.dropWhile (· == '0')).reverse

def ofScaled (n : Nat) (e : Int) : Digits :=
  let cs := Nat.toDigits 10 n
  ⟨dropTrailingZeros cs, e + cs.length⟩

def magnitude (num den : Nat) : Int :=
  let guess : Int := ((Nat.toDigits 10 num).length : Int) - (Nat.toDigits 10 den).length
  let below :=
    if guess < 0 then num * Binary64.tenTo (-guess).toNat < den
    else num < den * Binary64.tenTo guess.toNat
  if below then guess - 1 else guess

def scale (num den : Nat) (e : Int) : Nat × Nat :=
  if e < 0 then (num * Binary64.tenTo (-e).toNat, den) else (num, den * Binary64.tenTo e.toNat)

def nearestOnGrid? (x : Binary64) (e : Int) : Option Nat :=
  let (n, d) := scale x.ratio.1 x.ratio.2 e
  let low := n / d
  let readsBack (c : Nat) : Bool := Binary64.ofDecimal x.negative c e == some x
  let near := Binary64.roundDiv n d
  let far := if near = low then low + 1 else low
  if readsBack near then some near else if readsBack far then some far else none

def shortest (x : Binary64) : Digits :=
  if x.isZero then ⟨['0'], 1⟩
  else
    let top := magnitude x.ratio.1 x.ratio.2
    let attempt (i : Nat) : Option Digits :=
      (nearestOnGrid? x (top - i)).map fun c => ofScaled c (top - i)
    ((List.range 18).findSome? attempt).getD ⟨['0'], 1⟩

def rounded (x : Binary64) (places : Nat) : Digits :=
  if x.isZero then ⟨['0'], 1⟩
  else
    let e := magnitude x.ratio.1 x.ratio.2 - (places - 1 : Nat)
    let (n, d) := scale x.ratio.1 x.ratio.2 e
    ofScaled (Binary64.roundDiv n d) e

end Digits

namespace Notation

def zeros (n : Nat) : List Char := List.replicate n '0'

def positional (f : Notation) (d : Digits) : List Char :=
  if d.point ≤ 0 then ['0', '.'] ++ zeros (-d.point).toNat ++ d.digits
  else
    let p := d.point.toNat
    let whole := d.digits.take p ++ zeros (p - d.digits.length)
    let rest := d.digits.drop p
    if rest.isEmpty then whole ++ (if f.wholeMark then ['.', '0'] else []) else whole ++ '.' :: rest

def scientific (f : Notation) (d : Digits) : List Char :=
  let e := d.point - 1
  let ds := Nat.toDigits 10 e.natAbs
  let sign := if e < 0 then ['-'] else if f.exponentPlus then ['+'] else []
  d.digits.take 1 ++ (if d.digits.length ≤ 1 then [] else '.' :: d.digits.drop 1) ++
    ['e'] ++ sign ++
    zeros (f.exponentWidth - ds.length) ++ ds

def render (f : Notation) (negative : Bool) (d : Digits) : String :=
  let body :=
    if f.leastPoint ≤ d.point ∧ d.point ≤ f.greatestPoint then f.positional d else f.scientific d
  String.ofList (if negative then '-' :: body else body)

end Notation

namespace Binary64

def plainNotation : Notation := ⟨-3, 16, 2, true, true⟩

def compactNotation : Notation := ⟨-4, 16, 1, true, true⟩

def briefNotation : Notation := ⟨-3, 6, 2, true, false⟩

def text (x : Binary64) : String := plainNotation.render x.negative (Digits.shortest x)

def compactText (x : Binary64) : String := compactNotation.render x.negative (Digits.shortest x)

def briefText (x : Binary64) : String := briefNotation.render x.negative (Digits.rounded x 6)

end Binary64

end Workflow
