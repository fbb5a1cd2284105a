import Workflow.Json.Basic
import Workflow.Text.Numeral

/-!
Reading JSON text. What is wrong with a text that is not JSON is told with its place. A reader may
refuse integers with too many digits.
-/

namespace Workflow.Json

inductive Fault where
  | value
  | memberName
  | colon
  | comma
  | extra
  | unterminatedString
  | escape
  | unicodeEscape
  | controlCharacter
  | byteOrderMark
deriving DecidableEq, Repr

def Fault.text : Fault → String
  | .value => "Expecting value"
  | .memberName => "Expecting property name enclosed in double quotes"
  | .colon => "Expecting ':' delimiter"
  | .comma => "Expecting ',' delimiter"
  | .extra => "Extra data"
  | .unterminatedString => "Unterminated string starting at"
  | .escape => "Invalid \\escape"
  | .unicodeEscape => "Invalid \\uXXXX escape"
  | .controlCharacter => "Invalid control character at"
  | .byteOrderMark => "Unexpected UTF-8 BOM (decode using utf-8-sig)"

inductive Stop where
  | fault (fault : Fault) (left : Nat)
  | longNumber (digits : Nat)

structure SyntaxError where
  fault : Fault
  line : Nat
  column : Nat
  offset : Nat
deriving DecidableEq, Repr

def SyntaxError.message (e : SyntaxError) : String :=
  s!"{e.fault.text}: line {e.line} column {e.column} (char {e.offset})"

def SyntaxError.at (text : List Char) (fault : Fault) (offset : Nat) : SyntaxError :=
  let before := text.take offset
  ⟨fault, before.count '\n' + 1, (before.reverse.takeWhile (· != '\n')).length + 1, offset⟩

inductive Unread where
  | malformed (e : SyntaxError)
  | longNumber (digits : Nat)
deriving DecidableEq, Repr

namespace Reader

def stop {α : Type} (fault : Fault) (cs : List Char) : Except Stop α :=
  .error (.fault fault cs.length)

def skipSpace (cs : List Char) : List Char :=
  cs.dropWhile fun c => c == ' ' || c == '\t' || c == '\n' || c == '\r'

def hexValue? (c : Char) : Option Nat :=
  if '0' ≤ c ∧ c ≤ '9' then some (c.toNat - 48)
  else if 'a' ≤ c ∧ c ≤ 'f' then some (c.toNat - 87)
  else if 'A' ≤ c ∧ c ≤ 'F' then some (c.toNat - 55)
  else none

def hexNumber? (cs : List Char) : Option Nat :=
  cs.foldlM (fun n c => (hexValue? c).map (n * 16 + ·)) 0

def simpleEscape? : Char → Option Char
  | '"' => some '"'
  | '\\' => some '\\'
  | '/' => some '/'
  | 'b' => some '\x08'
  | 'f' => some '\x0c'
  | 'n' => some '\n'
  | 'r' => some '\r'
  | 't' => some '\t'
  | _ => none

def isHighSurrogate (n : Nat) : Bool := 0xd800 ≤ n && n < 0xdc00

def isLowSurrogate (n : Nat) : Bool := 0xdc00 ≤ n && n < 0xe000

/-- A half of a surrogate pair that stands alone is read as the replacement character. -/
def codePoint (n : Nat) : Char :=
  if isHighSurrogate n || isLowSurrogate n then '\ufffd' else Char.ofNat n

def unicode (cs : List Char) : Except Stop (Char × Nat) :=
  let digits := (cs.drop 1).take 4
  match if (cs.drop 5).isEmpty then none else hexNumber? digits with
  | none => stop .unicodeEscape cs
  | some high =>
    let next := cs.drop 5
    if isHighSurrogate high && !(next.drop 6).isEmpty && next.take 2 == ['\\', 'u'] then
      match hexNumber? ((next.drop 2).take 4) with
      | none => stop .unicodeEscape (next.drop 1)
      | some low =>
        if isLowSurrogate low then
          .ok (Char.ofNat (0x10000 + (high - 0xd800) * 0x400 + (low - 0xdc00)), 11)
        else .ok (codePoint high, 5)
    else .ok (codePoint high, 5)

/-- The rest of a string, of which `read` comes first in reverse. The text from its opening quote on
says where it starts; the fuel bounds its length. -/
def string (opening : List Char) : Nat → List Char → List Char → Except Stop (String × List Char)
  | 0, _, _ => stop .unterminatedString opening
  | fuel + 1, read, cs =>
    match cs with
    | [] => stop .unterminatedString opening
    | '"' :: rest => .ok (String.ofList read.reverse, rest)
    | '\\' :: rest =>
      match rest with
      | [] => stop .unterminatedString opening
      | 'u' :: _ => do
        let (c, size) ← unicode rest
        string opening fuel (c :: read) (rest.drop size)
      | c :: rest' =>
        match simpleEscape? c with
        | some d => string opening fuel (d :: read) rest'
        | none => stop .escape cs
    | c :: rest =>
      if c.toNat < 0x20 then stop .controlCharacter cs else string opening fuel (c :: read) rest

def isAsciiDigit (c : Char) : Bool := '0' ≤ c && c ≤ '9'

def natural (cs : List Char) : Nat := cs.foldl (fun n c => n * 10 + (c.toNat - 48)) 0

def fraction : List Char → List Char × List Char
  | '.' :: rest =>
    let ds := rest.takeWhile isAsciiDigit
    if ds.isEmpty then ([], '.' :: rest) else (ds, rest.drop ds.length)
  | cs => ([], cs)

def exponent (cs : List Char) : Option Int × List Char :=
  match cs with
  | e :: rest =>
    if e = 'e' ∨ e = 'E' then
      let (negative, rest) :=
        match rest with
        | '-' :: rest => (true, rest)
        | '+' :: rest => (false, rest)
        | rest => (false, rest)
      let ds := rest.takeWhile isAsciiDigit
      if ds.isEmpty then (none, cs)
      else
        let n : Int := natural ds
        (some (if negative then -n else n), rest.drop ds.length)
    else (none, cs)
  | [] => (none, cs)

def number (limit : Nat) (cs : List Char) : Except Stop (Json × List Char) :=
  let (negative, rest) :=
    match cs with
    | '-' :: rest => (true, rest)
    | rest => (false, rest)
  let whole :=
    match rest with
    | '0' :: _ => ['0']
    | rest => rest.takeWhile isAsciiDigit
  if whole.isEmpty then stop .value cs
  else
    let rest := rest.drop whole.length
    let (decimals, rest) := fraction rest
    let (power, rest) := exponent rest
    if decimals.isEmpty && power.isNone then
      let n : Int := natural whole
      if limit < whole.length then .error (.longNumber whole.length)
      else .ok (.int (if negative then -n else n), rest)
    else
      let x := Floating.ofDecimal negative (natural (whole ++ decimals))
        (power.getD 0 - decimals.length)
      .ok (.float x, rest)

mutual

def value (limit : Nat) : Nat → List Char → Except Stop (Json × List Char)
  | 0, cs => stop .value cs
  | fuel + 1, cs =>
    match cs with
    | '"' :: rest => do
      let (s, rest) ← string cs fuel [] rest
      return (.str s, rest)
    | '\x7b' :: rest =>
      match skipSpace rest with
      | '\x7d' :: rest => .ok (.obj [], rest)
      | rest => members limit fuel [] rest
    | '[' :: rest =>
      match skipSpace rest with
      | ']' :: rest => .ok (.arr [], rest)
      | rest => items limit fuel [] rest
    | 'n' :: 'u' :: 'l' :: 'l' :: rest => .ok (.null, rest)
    | 't' :: 'r' :: 'u' :: 'e' :: rest => .ok (.bool true, rest)
    | 'f' :: 'a' :: 'l' :: 's' :: 'e' :: rest => .ok (.bool false, rest)
    | 'N' :: 'a' :: 'N' :: rest => .ok (.float (.nan true), rest)
    | 'I' :: 'n' :: 'f' :: 'i' :: 'n' :: 'i' :: 't' :: 'y' :: rest =>
      .ok (.float (.infinite false), rest)
    | '-' :: 'I' :: 'n' :: 'f' :: 'i' :: 'n' :: 'i' :: 't' :: 'y' :: rest =>
      .ok (.float (.infinite true), rest)
    | cs => number limit cs

def items (limit : Nat) : Nat → List Json → List Char → Except Stop (Json × List Char)
  | 0, _, cs => stop .value cs
  | fuel + 1, read, cs => do
    let (x, rest) ← value limit fuel cs
    match skipSpace rest with
    | ']' :: rest => return (.arr (x :: read).reverse, rest)
    | ',' :: rest => items limit fuel (x :: read) (skipSpace rest)
    | rest => stop .comma rest

def members (limit : Nat) : Nat → Keyed Json → List Char → Except Stop (Json × List Char)
  | 0, _, cs => stop .memberName cs
  | fuel + 1, read, cs =>
    match cs with
    | '"' :: rest => do
      let (name, rest) ← string cs fuel [] rest
      match skipSpace rest with
      | ':' :: rest =>
        let (x, rest) ← value limit fuel (skipSpace rest)
        let read := Keyed.set read name x
        match skipSpace rest with
        | '\x7d' :: rest => return (.obj read, rest)
        | ',' :: rest => members limit fuel read (skipSpace rest)
        | rest => stop .comma rest
      | rest => stop .colon rest
    | cs => stop .memberName cs

end

def enough (cs : List Char) : Nat := 2 * cs.length + 2

def document (limit : Nat) (cs : List Char) : Except Stop Json := do
  let (x, rest) ← value limit (enough cs) (skipSpace cs)
  match skipSpace rest with
  | [] => return x
  | rest => .error (.fault .extra rest.length)

end Reader

def readWithin (limit : Nat) (text : String) : Except Unread Json :=
  let cs := text.toList
  match cs with
  | '\ufeff' :: _ => .error (.malformed (.at cs .byteOrderMark 0))
  | _ =>
    match Reader.document limit cs with
    | .ok x => .ok x
    | .error (.fault fault left) => .error (.malformed (.at cs fault (cs.length - left)))
    | .error (.longNumber digits) => .error (.longNumber digits)

def read (text : String) : Except Unread Json := readWithin Text.longestNumeral text

def readAny (text : String) : Except Unread Json := readWithin text.length text

mutual

def longNumber? : Json → Option Nat
  | .int n =>
    let digits := (Nat.toDigits 10 n.natAbs).length
    if Text.longestNumeral < digits then some digits else none
  | .arr items => longNumberAmong? items
  | .obj members => longNumberWithin? members
  | _ => none

def longNumberAmong? : List Json → Option Nat
  | [] => none
  | x :: xs => (longNumber? x).orElse fun _ => longNumberAmong? xs

def longNumberWithin? : List (String × Json) → Option Nat
  | [] => none
  | (_, x) :: ms => (longNumber? x).orElse fun _ => longNumberWithin? ms

end

end Workflow.Json
