import Workflow.Json.Basic

/-!
Equality of JSON values up to the order of members and the spelling of numbers: false, true,
integers and floating-point numbers are equal when their values are.
-/

namespace Workflow.Json

inductive Amount where
  | int (n : Int)
  | float (x : Floating)

def amount? : Json → Option Amount
  | .bool b => some (.int (if b then 1 else 0))
  | .int n => some (.int n)
  | .float x => some (.float x)
  | _ => none

def Amount.sameValue : Amount → Amount → Bool
  | .int m, .int n => m == n
  | .int m, .float y => y.equalsInt m
  | .float x, .int n => x.equalsInt n
  | .float x, .float y => x.sameValue y

def sameAmount (x y : Json) : Bool :=
  match amount? x, amount? y with
  | some a, some b => a.sameValue b
  | _, _ => false

mutual

def equivalent : Json → Json → Bool
  | .null, .null => true
  | .str s, .str t => s == t
  | .arr xs, .arr ys => equivalentItems xs ys
  | .obj ms, .obj ns => ms.length == ns.length && includedMembers ms ns
  | .bool a, y => sameAmount (.bool a) y
  | .int m, y => sameAmount (.int m) y
  | .float x, y => sameAmount (.float x) y
  | _, _ => false

def equivalentItems : List Json → List Json → Bool
  | [], [] => true
  | x :: xs, y :: ys => equivalent x y && equivalentItems xs ys
  | _, _ => false

def includedMembers : List (String × Json) → List (String × Json) → Bool
  | [], _ => true
  | (k, x) :: ms, ns =>
    (match Keyed.find? ns k with
      | some y => equivalent x y
      | none => false) && includedMembers ms ns

end

end Workflow.Json
