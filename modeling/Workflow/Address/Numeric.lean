import Workflow.Json.Reader
import Workflow.Text.Split

/-!
Hosts that are given by numbers: four decimal ones with points between them, or eight hexadecimal
ones with colons between them, of which a run of zeros may be left out.
-/

namespace Workflow.Address

abbrev Progress := Nat × Bool

def proceed (c : Char) (p : Progress) : List Progress :=
  (if Json.Reader.isAsciiDigit c then [(p.1, true)] else []) ++
    if p.2 && p.1 < 3 then [(p.1 + 1, false)] else []

def looksDecimal (host : List Char) : Bool :=
  (host.foldl (fun ps c => (ps.flatMap (proceed c)).eraseDups) [(0, false)]).contains (3, true)

def isOctet (cs : List Char) : Bool :=
  !cs.isEmpty && cs.all Json.Reader.isAsciiDigit && cs.length ≤ 3 &&
    (cs == ['0'] || cs.head? != some '0') && Json.Reader.natural cs ≤ 255

def isDecimal (host : List Char) : Bool :=
  let parts := Text.splitOn '.' host
  parts.length == 4 && parts.all isOctet

def looksHexadecimal (host : List Char) : Bool :=
  host.length ≥ 2 && host.head? == some '[' && host.getLast? == some ']'

def isHexadecimalNumber (cs : List Char) : Bool :=
  !cs.isEmpty && cs.length ≤ 4 && cs.all fun c => (Json.Reader.hexValue? c).isSome

def hexadecimalNumbers? (host : List Char) : Option (List (List Char)) :=
  let parts := Text.splitOn ':' host
  match parts.getLast? with
  | some last =>
    if parts.length < 3 then none
    else if !last.contains '.' then some parts
    else if isDecimal last then some (parts.dropLast ++ [['0'], ['0']])
    else none
  | none => none

/-- Up to seven numbers around a place where zeros are left out. A side without numbers is written
as one that is empty. -/
def areAbridged (before after : List (List Char)) : Bool :=
  let numbers (side : List (List Char)) := if side == [[]] then [] else side
  (numbers before ++ numbers after).length ≤ 7 &&
    (numbers before ++ numbers after).all isHexadecimalNumber

def areNumbers (parts : List (List Char)) : Bool :=
  let inside := (parts.drop 1).dropLast
  if inside.contains [] then
    let i := (inside.takeWhile (!·.isEmpty)).length + 1
    areAbridged (parts.take i) (parts.drop (i + 1))
  else parts.length == 8 && parts.all isHexadecimalNumber

def hasSoundZone (host : List Char) : Bool :=
  match host.dropWhile (· != '%') with
  | [] => true
  | _ :: zone => !zone.isEmpty && !zone.contains '%'

def isHexadecimal (host : List Char) : Bool :=
  !host.contains '/' && hasSoundZone host &&
    (hexadecimalNumbers? (host.takeWhile (· != '%'))).any areNumbers

end Workflow.Address
