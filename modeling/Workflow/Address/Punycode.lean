/-!
Names in plain letters. The plain characters of a label come first, and behind a hyphen the others,
each as a number that says where it is put: how many places it comes behind the one before it, when
all places of all characters from the smallest on are counted. The digits of these numbers are the
letters and then the decimal digits.
-/

namespace Workflow.Punycode

def isPlain (c : Char) : Bool := c.toNat < 0x80

def digit (n : Nat) : Char := "abcdefghijklmnopqrstuvwxyz0123456789".toList.getD n '-'

def digitValue? (c : Char) : Option Nat :=
  if 'a' ≤ c ∧ c ≤ 'z' then some (c.toNat - 97)
  else if 'A' ≤ c ∧ c ≤ 'Z' then some (c.toNat - 65)
  else if '0' ≤ c ∧ c ≤ '9' then some (c.toNat - 22)
  else none

def threshold (bias position : Nat) : Nat := max 1 (min 26 (36 * (position + 1) - bias))

theorem threshold_pos (bias position : Nat) : 0 < threshold bias position := by
  unfold threshold
  omega

def scaledBias (bias size : Nat) : Nat :=
  if 455 < size then scaledBias (bias + 36) (size / 35) else bias + 36 * size / (size + 38)
termination_by size
decreasing_by omega

def nextBias (number length : Nat) (isFirst : Bool) : Nat :=
  let size := if isFirst then number / 700 else number / 2
  scaledBias 0 (size + size / length)

def digits (bias position number : Nat) : List Char :=
  let t := threshold bias position
  if number < t then [digit number]
  else
    digit (t + (number - t) % (36 - t)) :: digits bias (position + 1) ((number - t) / (36 - t))
termination_by number
decreasing_by
  have := threshold_pos bias position
  have := Nat.div_le_self (number - threshold bias position) (36 - threshold bias position)
  omega

structure Writing where
  output : List Char
  bias : Nat
  number : Nat
  count : Nat
  isFirst : Bool

namespace Writing

def pass (code : Nat) (w : Writing) (c : Char) : Writing :=
  if c.toNat < code then { w with number := w.number + 1 }
  else if c.toNat = code then
    ⟨w.output ++ digits w.bias 0 w.number, nextBias w.number (w.count + 1) w.isFirst, 0,
      w.count + 1, false⟩
  else w

def passAll (label : List Char) (next : Nat) (w : Writing) : List Nat → Writing
  | [] => w
  | code :: codes =>
    let w := { w with number := w.number + (code - next) * (w.count + 1) }
    let w := label.foldl (pass code) w
    passAll label (code + 1) { w with number := w.number + 1 } codes

end Writing

def encode (label : List Char) : List Char :=
  let plain := label.filter isPlain
  let codes := ((label.filter (!isPlain ·)).map Char.toNat).eraseDups.mergeSort (· ≤ ·)
  let others := (Writing.passAll label 0x80 ⟨[], 72, 0, plain.length, true⟩ codes).output
  if plain.isEmpty then others else plain ++ '-' :: others

structure Reading where
  label : List Char
  bias : Nat
  code : Nat
  place : Nat
  number : Nat
  weight : Nat
  position : Nat
  isFirst : Bool

namespace Reading

def start (plain : List Char) : Reading := ⟨plain, 72, 0x80, 0, 0, 1, 0, true⟩

def insert (r : Reading) (number : Nat) : Option Reading :=
  let length := r.label.length + 1
  let code := r.code + (r.place + number) / length
  let place := (r.place + number) % length
  if h : code.isValidChar then
    some ⟨r.label.insertIdx place (Char.ofNatAux code h), nextBias number length r.isFirst, code,
      place + 1, 0, 1, 0, false⟩
  else none

def push (r : Reading) (c : Char) : Option Reading := do
  let d ← digitValue? c
  let t := threshold r.bias r.position
  let number := r.number + d * r.weight
  if d < t then r.insert number
  else return { r with number, weight := r.weight * (36 - t), position := r.position + 1 }

end Reading

def decode? (cs : List Char) : Option (List Char) := do
  let others := (cs.reverse.takeWhile (· != '-')).reverse
  let plain := cs.take (cs.length - others.length - 1)
  let r ← others.foldlM Reading.push (.start plain)
  if r.position = 0 then return r.label else none

end Workflow.Punycode
