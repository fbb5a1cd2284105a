import Workflow.Number.Notation

/-!
Floating-point numbers with the two infinities and the values that are no number. Among these the
one that JSON texts name is a single object, which comparisons take for itself.
-/

namespace Workflow

inductive Floating where
  | finite (x : Binary64)
  | infinite (negative : Bool)
  | nan (named : Bool)
deriving DecidableEq, Repr

namespace Floating

def zero : Floating := .finite ⟨false, 0, 0⟩

def ofDecimal (negative : Bool) (digits : Nat) (e : Int) : Floating :=
  (Binary64.ofDecimal negative digits e).elim (.infinite negative) .finite

def ofWord? (negative : Bool) (word : List Char) : Option Floating :=
  match String.ofList (word.map Char.toLower) with
  | "inf" | "infinity" => some (.infinite negative)
  | "nan" => some (.nan false)
  | _ => none

def isFinite : Floating → Bool
  | .finite _ => true
  | .infinite _ | .nan _ => false

def isZero : Floating → Bool
  | .finite x => x.isZero
  | .infinite _ | .nan _ => false

def isAtMostZero : Floating → Bool
  | .finite x => !x.isPositive
  | .infinite negative => negative
  | .nan _ => false

/-- Equality of values: the two zeros are equal, and what is no number is equal to nothing, the
named one apart. -/
def sameValue : Floating → Floating → Bool
  | .finite x, .finite y => x.sameValue y
  | .infinite m, .infinite n => m == n
  | .nan named, .nan named' => named && named'
  | _, _ => false

def equalsInt : Floating → Int → Bool
  | .finite x, n => x.equalsInt n
  | _, _ => false

def spell (infinity nan : String) (write : Binary64 → String) : Floating → String
  | .finite x => write x
  | .infinite true => "-" ++ infinity
  | .infinite false => infinity
  | .nan _ => nan

def written : Floating → Floating
  | .nan _ => .nan true
  | x => x

def text : Floating → String := spell "inf" "nan" Binary64.text

def briefText : Floating → String := spell "inf" "nan" Binary64.briefText

end Floating

end Workflow
