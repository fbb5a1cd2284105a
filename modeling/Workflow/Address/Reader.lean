import Workflow.Address.Basic
import Workflow.Address.DomainName
import Workflow.Address.Numeric
import Workflow.Address.Quoting
import Workflow.Text.Numeral

namespace Workflow.Address

structure Raw where
  scheme : List Char
  user : List Char
  host : List Char
  port : List Char
  path : List Char
  query : Option (List Char)
  fragment : Option (List Char)

namespace Raw

def isSchemeCharacter (c : Char) : Bool := c.isAlphanum || ['+', '.', '-'].contains c

def splitScheme (cs : List Char) : List Char × List Char :=
  let scheme := if cs.head?.any Char.isAlpha then cs.takeWhile isSchemeCharacter else []
  match cs.drop scheme.length with
  | ':' :: rest => (scheme, rest)
  | _ => ([], cs)

def cutAt (marks : List Char) (cs : List Char) : List Char × List Char :=
  let before := cs.takeWhile fun c => !marks.contains c
  (before, cs.drop before.length)

def cutAtLast (c : Char) (cs : List Char) : Option (List Char × List Char) :=
  if cs.contains c then
    let behind := (cs.reverse.takeWhile (· != c)).reverse
    some (cs.take (cs.length - behind.length - 1), behind)
  else none

def splitAuthority (cs : List Char) : List Char × List Char :=
  match cs with
  | '/' :: '/' :: rest => cutAt ['/', '?', '#'] rest
  | _ => ([], cs)

def splitHost (cs : List Char) : List Char × List Char :=
  match if cs.head? == some '[' then cutAtLast ']' cs else none with
  | some (host, rest) => (host ++ [']'], rest)
  | none => cutAt [':'] cs

def behind (c : Char) (cs : List Char) : Option (List Char) :=
  if cs.head? == some c then some (cs.drop 1) else none

def ofText (cs : List Char) : Raw :=
  let (scheme, rest) := splitScheme cs
  let (authority, rest) := splitAuthority rest
  let (user, location) := (cutAtLast '@' authority).getD ([], authority)
  let (host, port) := splitHost location
  let (path, rest) := cutAt ['?', '#'] rest
  let query := (behind '?' rest).map fun cs => (cutAt ['#'] cs).1
  let fragment := behind '#' (cutAt ['#'] rest).2
  ⟨scheme, user, host, (behind ':' port).getD port, path, query, fragment⟩

end Raw

def readHost (host : List Char) : Except Fault (List Char) :=
  let given := String.ofList host
  if host.isEmpty then .ok []
  else if looksDecimal host then
    if isDecimal host then .ok host else .error (.badDecimalHost given)
  else if looksHexadecimal host then
    let inner := (host.drop 1).dropLast
    if isHexadecimal inner then .ok inner else .error (.badHexadecimalHost given)
  else if host.all Punycode.isPlain then .ok (quote .host (host.map Char.toLower))
  else (plainName? (Text.lowercaseFrom [] host)).elim (.error (.badHostName given)) .ok

def portDigits? (cs : List Char) : Option (List Char) :=
  if cs.contains '_' then
    let groups := Text.splitOn '_' cs
    if groups.any List.isEmpty then none else some groups.flatten
  else if cs.isEmpty then none
  else some cs

def portNumber? (cs : List Char) : Option Int := do
  let cs := Text.trimWhile Text.isBlank cs
  let (negative, digits) :=
    match cs with
    | '-' :: rest => (true, rest)
    | '+' :: rest => (false, rest)
    | rest => (false, rest)
  let n ← (Text.numeral (← portDigits? digits)).toOption
  return if negative then -(n : Int) else n

def usualPort? : String → Option Int
  | "ftp" => some 21
  | "http" | "ws" => some 80
  | "https" | "wss" => some 443
  | _ => none

def readPort (scheme : String) (port : List Char) : Except Fault (Option Int) :=
  if port.isEmpty then .ok none
  else
    match portNumber? port with
    | none => .error (.badPort (String.ofList port))
    | some n => .ok (if usualPort? scheme = some n then none else some n)

def followSegment (before : List (List Char)) (segment : List Char) : List (List Char) :=
  if segment = ['.'] then before
  else if segment = ['.', '.'] then if before = [[]] then before else before.drop 1
  else segment :: before

def withoutPoints (path : List Char) : List Char :=
  ['/'].intercalate ((Text.splitOn '/' path).foldl followSegment []).reverse

def part (p : Part) (cs : List Char) : String := String.ofList (quote p cs)

def ofRaw (r : Raw) : Except Fault Address := do
  let scheme := String.ofList r.scheme
  let host ← readHost r.host
  let port ← readPort scheme r.port
  let a : Address :=
    ⟨scheme.map Char.toLower, part .user r.user, String.ofList host, port, part .path r.path,
      r.query.map (part .query), r.fragment.map (part .fragment)⟩
  if !a.scheme.isEmpty || a.hasAuthority then
    return { a with path := part .path (withoutPoints r.path) }
  else if r.path.take 2 = ['/', '/'] then throw .doubleSlash
  else if r.path.head? = some ':' then throw .colon
  else return a

def isControl (c : Char) : Bool := c.toNat < 0x20 || c.toNat = 0x7f

def ofText (s : String) : Except Fault Address :=
  let cs := s.toList
  if longest < cs.length then .error .tooLong
  else
    match cs.find? isControl with
    | some c => .error (.unprintable c (cs.takeWhile (!isControl ·)).length)
    | none => ofRaw (Raw.ofText cs)

end Workflow.Address
