import Workflow.Document.View

/-!
Points in time: microseconds since the start of 1970, with the offset of the clock that showed them.
-/

namespace Workflow

structure Instant where
  micros : Int
  offset : Int
deriving DecidableEq, Repr

structure CivilDate where
  year : Int
  month : Nat
  day : Nat
deriving DecidableEq, Repr

namespace CivilDate

def isLeap (year : Int) : Bool := year % 4 == 0 && (year % 100 != 0 || year % 400 == 0)

def marchDays (year : Int) : Int := 365 * year + year / 4 - year / 100 + year / 400

def daysBeforeMonth (m : Nat) : Nat := (153 * m + 2) / 5

def toDays (d : CivilDate) : Int :=
  let m := (d.month + 9) % 12
  let y := if d.month ≤ 2 then d.year - 1 else d.year
  marchDays y + daysBeforeMonth m + d.day - 1 - 719468

def ofDays (days : Int) : CivilDate :=
  let z := days + 719468
  let era := z / 146097
  let dayOfEra := z % 146097
  let yearOfEra := (dayOfEra - dayOfEra / 1460 + dayOfEra / 36524 - dayOfEra / 146096) / 365
  let dayOfYear := (dayOfEra - (365 * yearOfEra + yearOfEra / 4 - yearOfEra / 100)).toNat
  let m := (5 * dayOfYear + 2) / 153
  let month := if m < 10 then m + 3 else m - 9
  let year := yearOfEra + era * 400
  ⟨if month ≤ 2 then year + 1 else year, month, dayOfYear - daysBeforeMonth m + 1⟩

def monthLength (year : Int) (month : Nat) : Nat :=
  if month = 2 then (if isLeap year then 29 else 28)
  else if month = 4 ∨ month = 6 ∨ month = 9 ∨ month = 11 then 30
  else 31

end CivilDate

namespace Instant

def padded (width n : Nat) : String :=
  let ds := Nat.toDigits 10 n
  String.ofList (List.replicate (width - ds.length) '0' ++ ds)

def localMicros (t : Instant) : Int := t.micros + t.offset * 60000000

def date (t : Instant) : CivilDate := .ofDays (t.localMicros / 86400000000)

def timeOfDay (t : Instant) : Nat := (t.localMicros % 86400000000).toNat

def fraction (t : Instant) : Nat := t.timeOfDay % 1000000

def clockText (t : Instant) : String :=
  let seconds := t.timeOfDay / 1000000
  s!"{padded 2 (seconds / 3600)}:{padded 2 (seconds / 60 % 60)}:{padded 2 (seconds % 60)}"

def dateText (t : Instant) : String :=
  s!"{padded 4 t.date.year.toNat}-{padded 2 t.date.month}-{padded 2 t.date.day}"

def localText (t : Instant) : String :=
  let fraction := if t.fraction = 0 then "" else s!".{padded 6 t.fraction}"
  s!"{t.dateText}T{t.clockText}{fraction}"

def offsetText (t : Instant) : String :=
  let size := t.offset.natAbs
  let sign := if t.offset < 0 then "-" else "+"
  s!"{sign}{padded 2 (size / 60)}:{padded 2 (size % 60)}"

def text (t : Instant) : String := t.localText ++ if t.offset = 0 then "Z" else t.offsetText

def sortText (t : Instant) : String := t.localText ++ t.offsetText

def plus (t : Instant) (micros : Int) : Instant := { t with micros := t.micros + micros }

def hasCountedYear (t : Instant) : Bool := 1 ≤ t.date.year && t.date.year ≤ 9999

def epoch2024 : Instant := ⟨1704067200000000, 0⟩

def number? (cs : List Char) : Option Nat :=
  if cs.isEmpty || !cs.all Json.Reader.isAsciiDigit then none else some (Json.Reader.natural cs)

def takeNumber (width : Nat) (cs : List Char) : Option (Nat × List Char) :=
  let ds := cs.take width
  if ds.length = width then (number? ds).map fun n => (n, cs.drop width) else none

def skip (c : Char) : List Char → Option (List Char)
  | d :: rest => if c = d then some rest else none
  | [] => none

def readDate (cs : List Char) : Option (CivilDate × List Char) := do
  let (year, cs) ← takeNumber 4 cs
  let (month, cs) ← takeNumber 2 (← skip '-' cs)
  let (day, cs) ← takeNumber 2 (← skip '-' cs)
  if 1 ≤ month ∧ month ≤ 12 ∧ 1 ≤ day ∧ day ≤ CivilDate.monthLength year month then
    some (⟨year, month, day⟩, cs)
  else none

def isFractionMark (c : Char) : Bool := c == '.' || c == ','

def isMinusSign (c : Char) : Bool := c == '-' || c == '−'

def readSeconds (cs : List Char) : Option (Nat × List Char) :=
  match cs with
  | ':' :: cs => do
    let (seconds, cs) ← takeNumber 2 cs
    if cs.head?.any isFractionMark then
      let cs := cs.drop 1
      let ds := cs.takeWhile Json.Reader.isAsciiDigit
      let kept := ds.take 6
      if ds.isEmpty then none
      else
        some (seconds * 1000000 + Json.Reader.natural kept * Binary64.tenTo (6 - kept.length),
          cs.drop ds.length)
    else some (seconds * 1000000, cs)
  | cs => some (0, cs)

def readOffset (cs : List Char) : Option Int :=
  match cs with
  | [] | ['Z'] | ['z'] => some 0
  | sign :: cs => do
    let (hours, cs) ← takeNumber 2 cs
    let (minutes, cs) ← takeNumber 2 (match cs with | ':' :: cs => cs | cs => cs)
    let size : Int := hours * 60 + minutes
    if !cs.isEmpty then none
    else if sign = '+' then some size
    else if isMinusSign sign then some (-size)
    else none

def ofText? (s : String) : Option Instant := do
  let (date, cs) ← readDate s.toList
  let cs ← (skip 'T' cs).orElse fun _ => (skip 't' cs).orElse fun _ =>
    (skip ' ' cs).orElse fun _ => skip '_' cs
  let (hours, cs) ← takeNumber 2 cs
  let (minutes, cs) ← takeNumber 2 (← skip ':' cs)
  let (micros, cs) ← readSeconds cs
  let offset ← readOffset cs
  if hours < 24 ∧ minutes < 60 ∧ micros < 60000000 then
    let ofDay : Int := (hours * 60 + minutes) * 60000000 + micros
    some ⟨date.toDays * 86400000000 + ofDay - offset * 60000000, offset⟩
  else none

def read : Reader Instant
  | .str s => (ofText? s).elim (.issue .notInstant) .ok
  | _ => .issue .notInstant

def view (t : Instant) : View := .text t.text

/-- A length of time in seconds as microseconds: whole seconds exactly, the fraction times a million
as a floating-point product, rounded half to even. -/
def durationMicros (seconds : Binary64) : Int :=
  let (num, den) := seconds.ratio
  let whole : Nat := num / den * 1000000
  let product := (Binary64.ofRatio false (num % den * 1000000) den).getD (.largest false)
  let total : Int := whole + Binary64.roundDiv product.ratio.1 product.ratio.2
  if seconds.negative then -total else total

inductive Fault where
  | longDuration (days : Int)
  | infiniteDuration
  | noDuration
  | uncountedYear
deriving DecidableEq, Repr

def mostDays : Nat := 999999999

def Fault.message : Fault → String
  | .longDuration days =>
    if -(Binary64.twoTo 31 : Int) ≤ days ∧ days < Binary64.twoTo 31 then
      s!"days={days}; must have magnitude <= {mostDays}"
    else "Python int too large to convert to C int"
  | .infiniteDuration => "cannot convert float infinity to integer"
  | .noDuration => "cannot convert float NaN to integer"
  | .uncountedYear => "date value out of range"

def earlierBy (t : Instant) (micros : Int) : Except Fault Instant :=
  let days := micros / 86400000000
  let start := t.plus (-micros)
  if mostDays < days.natAbs then .error (.longDuration days)
  else if start.hasCountedYear then .ok start
  else .error .uncountedYear

def earlier (t : Instant) : Floating → Except Fault Instant
  | .finite seconds => t.earlierBy (durationMicros seconds)
  | .infinite _ => .error .infiniteDuration
  | .nan _ => .error .noDuration

end Instant

end Workflow
