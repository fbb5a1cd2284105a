import Workflow.Document.Checked
import Workflow.Document.IntegerText
import Workflow.Json.Basic
import Workflow.Json.Reader
import Workflow.Named
import Workflow.Text.Blank

/-!
Readers: from JSON values to values of the library's types. Numbers, integers and booleans are also
read from texts and from one another where nothing is lost.
-/

namespace Workflow

abbrev Reader (α : Type) := Json → Checked α

namespace Reader

variable {α : Type}

def any : Reader Json := .ok

def written : Reader Json := fun x => .ok x.written

def text : Reader String
  | .str s => .ok s
  | _ => .issue .notText

def nullable (read : Reader α) : Reader (Option α)
  | .null => .ok none
  | x => some <$> read x

def itemsFrom (read : Reader α) : Nat → List Json → Checked (List α)
  | _, [] => .ok []
  | i, x :: xs => List.cons <$> (read x).under (.item i) <*> itemsFrom read (i + 1) xs

def list (read : Reader α) : Reader (List α)
  | .arr items => itemsFrom read 0 items
  | _ => .issue .notList

def entries (read : Reader α) : List (String × Json) → Checked (Keyed α)
  | [] => .ok []
  | (k, x) :: rest =>
    (fun a others => (k, a) :: others) <$> (read x).under (.member k) <*> entries read rest

def mapping (read : Reader α) : Reader (Keyed α)
  | .obj members => entries read members
  | _ => .issue .notMapping

def object : Reader (Keyed Json) := mapping any

def enumerated (α : Type) [Named α] : Reader α
  | .str s => (Named.ofName? s).elim (.issue (.notEnumerated (Named.names α))) .ok
  | _ => .issue (.notEnumerated (Named.names α))

def literal (α : Type) [Named α] : Reader α
  | .str s => (Named.ofName? s).elim (.issue (.notLiteral (Named.names α))) .ok
  | _ => .issue (.notLiteral (Named.names α))

def signed (cs : List Char) : Bool × List Char :=
  match cs with
  | '-' :: rest => (true, rest)
  | '+' :: rest => (false, rest)
  | rest => (false, rest)

def digits? (negative : Bool) (rest : List Char) : Option Floating :=
  let whole := rest.takeWhile Json.Reader.isAsciiDigit
  let rest := rest.drop whole.length
  let (decimals, rest) :=
    match rest with
    | '.' :: rest =>
      let ds := rest.takeWhile Json.Reader.isAsciiDigit
      (ds, rest.drop ds.length)
    | rest => ([], rest)
  let (power, rest) := Json.Reader.exponent rest
  if whole.isEmpty && decimals.isEmpty || !rest.isEmpty then none
  else
    some (Floating.ofDecimal negative (Json.Reader.natural (whole ++ decimals))
      (power.getD 0 - decimals.length))

def decimal? (cs : List Char) : Option Floating :=
  let (negative, rest) := signed cs
  (Floating.ofWord? negative rest).orElse fun _ => digits? negative rest

/-- A number in a text: white space around it is allowed, or underscores in it, but not both. -/
def numberText? (cs : List Char) : Option Floating :=
  (decimal? (Text.trimWhile Text.isWhiteSpace cs)).orElse fun _ =>
    (IntegerText.withoutUnderscores? cs).bind decimal?

def number : Reader Floating
  | .float x => .ok x
  | .int n => (Binary64.ofInt n).elim (.issue .notNumber) fun x => .ok (.finite x)
  | .bool b => .ok (.finite (.ofBool b))
  | .str s => (numberText? s.toList).elim (.issue .unreadableNumber) .ok
  | _ => .issue .notNumber

def positive (x : Floating) : Checked Floating :=
  if x.isAtMostZero then .issue .notPositive else .ok x

def integerText (s : String) : Checked Int :=
  match IntegerText.read s.toList with
  | .ok n => .ok n
  | .error .unreadable => .issue .unreadableInteger
  | .error .tooLong => .issue .oversizedInteger

def wholeNumber? (x : Binary64) : Option Int :=
  if x.isWhole && x.truncate.natAbs < Binary64.twoTo 63 then some x.truncate else none

def integer : Reader Int
  | .int n => .ok n
  | .bool b => .ok (if b then 1 else 0)
  | .float (.finite x) =>
    if !x.isWhole then .issue .fractionalInteger
    else (wholeNumber? x).elim (.issue .oversizedInteger) .ok
  | .float _ => .issue .notFinite
  | .str s => integerText s
  | _ => .issue .notInteger

def trueWords : List String := ["true", "t", "yes", "y", "on", "1"]

def falseWords : List String := ["false", "f", "no", "n", "off", "0"]

def asciiLower (s : String) : String := s.map Char.toLower

def booleanOfInt (n : Int) : Checked Bool :=
  if n = 0 then .ok false
  else if n = 1 then .ok true
  else if -(Binary64.twoTo 63 : Int) ≤ n ∧ n < Binary64.twoTo 63 then .issue .unreadableBoolean
  else .issue .notBoolean

def boolean : Reader Bool
  | .bool b => .ok b
  | .int n => booleanOfInt n
  | .float (.finite x) => (wholeNumber? x).elim (.issue .notBoolean) booleanOfInt
  | .str s =>
    if trueWords.contains (asciiLower s) then .ok true
    else if falseWords.contains (asciiLower s) then .ok false
    else .issue .unreadableBoolean
  | _ => .issue .notBoolean

end Reader

structure FieldName where
  label : String
  name : String
deriving DecidableEq, Repr

namespace FieldName

def plain (name : String) : FieldName := ⟨name, name⟩

def find? (f : FieldName) (members : Keyed Json) : Option Json :=
  (Keyed.find? members f.label).orElse fun _ => Keyed.find? members f.name

def taken (f : FieldName) (members : Keyed Json) : String :=
  if Keyed.has members f.label then f.label else f.name

end FieldName

namespace Reader

variable {α : Type}

def record (name : String) (build : Keyed Json → Checked α) : Reader α
  | .obj members => build members
  | _ => .issue (.notRecord name)

def required (members : Keyed Json) (f : FieldName) (read : Reader α) : Checked α :=
  match f.find? members with
  | some x => (read x).under (.member f.label)
  | none => (Checked.issue .missing).under (.member f.label)

def given (members : Keyed Json) (f : FieldName) (read : Reader α) : Checked (Option α) :=
  match f.find? members with
  | some x => some <$> (read x).under (.member f.label)
  | none => .ok none

def optional (members : Keyed Json) (f : FieldName) (default : α) (read : Reader α) : Checked α :=
  (·.getD default) <$> given members f read

def extras (members : Keyed Json) (fields : List FieldName) : Keyed Json :=
  Keyed.without members (fields.map (·.taken members))

end Reader

end Workflow
