import Workflow.Json.Writer

/-!
Console markup: words in square brackets style the text between them. Text from outside is
escaped, so that its brackets are shown as they are.
-/

namespace Workflow.Markup

def isTagStart (c : Char) : Bool := 'a' ≤ c && c ≤ 'z' || ['#', '/', '@'].contains c

def closes : List Char → Bool
  | [] => false
  | c :: rest => if c = '[' then false else if c = ']' then true else closes rest

def opensTag : List Char → Bool
  | [] => false
  | c :: rest => isTagStart c && closes rest

/-- Doubles the backslashes before each tag, of which `n` have been passed, and adds one. -/
def escapeTags (n : Nat) : List Char → List Char
  | [] => List.replicate n '\\'
  | c :: rest =>
    if c = '\\' then escapeTags (n + 1) rest
    else if c = '[' && opensTag rest then
      List.replicate (2 * n + 1) '\\' ++ c :: escapeTags 0 rest
    else List.replicate n '\\' ++ c :: escapeTags 0 rest

def closeBackslash (cs : List Char) : List Char :=
  match cs.reverse with
  | '\\' :: '\\' :: _ => cs
  | '\\' :: _ => cs ++ ['\\']
  | _ => cs

def escape (s : String) : String := String.ofList (closeBackslash (escapeTags 0 s.toList))

/-- The first `width` characters, of which the last three are dots where more follow. A width
without room for the dots is short of three, and so much is left out at the end. -/
def cut (width : Int) (s : String) : String :=
  let cs := s.toList
  let kept := if width < 3 then cs.length + width - 3 else width - 3
  if cs.length ≤ width then s else String.ofList (cs.take kept.toNat) ++ "..."

def brief (width : Int) : Json → String
  | .null => ""
  | .str s => cut width (escape s)
  | x => cut width (escape (Json.plain.line x))

end Workflow.Markup
