import Workflow.Json.Reader
import Workflow.Text.Blank
import Workflow.Text.Numeral

/-!
Integers in texts. The plain form is a minus sign or none, and digits that start with no needless
zero. A text in another form is first brought to the plain one: blanks around it, a plus sign, zeros
at its front, a fraction of zeros, and single underscores are taken away.
-/

namespace Workflow.IntegerText

inductive Fault where
  | unreadable
  | tooLong
deriving DecidableEq, Repr

def plain (cs : List Char) : Except Fault Int :=
  let (negative, rest) :=
    match cs with
    | '-' :: rest => (true, rest)
    | rest => (false, rest)
  let digits := rest.takeWhile Json.Reader.isAsciiDigit
  let n : Int := Json.Reader.natural digits
  if digits.isEmpty || digits.head? == some '0' && digits != ['0'] then .error .unreadable
  else if Text.longestNumeral < cs.length - (rest.length - digits.length) then .error .tooLong
  else if digits.length < rest.length then .error .unreadable
  else .ok (if negative then -n else n)

def withoutUnderscores? (cs : List Char) : Option (List Char) :=
  let doubled := (cs.zip (cs.drop 1)).any fun p => p.1 == '_' && p.2 == '_'
  if cs.head? == some '_' || cs.getLast? == some '_' || !cs.contains '_' || doubled then none
  else some (cs.filter (· != '_'))

def withoutZeroFraction (cs : List Char) : List Char :=
  let whole := cs.takeWhile (· != '.')
  let decimals := cs.drop (whole.length + 1)
  if !decimals.isEmpty && decimals.all (· == '0') then whole else cs

/-- What is left of a number behind the zero `last` and further zeros and underscores. The last of
these stays where a fraction or the end follows, and a minus sign starts the number over. -/
def behindZeros (last : Char) : List Char → Option (List Char)
  | [] => some [last]
  | c :: rest =>
    if c = '0' ∨ c = '_' then behindZeros c rest
    else if Json.Reader.isAsciiDigit c ∨ c = '-' then some (c :: rest)
    else if c = '.' then some (last :: c :: rest)
    else none

def withoutZeros? : List Char → Option (List Char)
  | [] => none
  | c :: rest =>
    if c = '0' then behindZeros c rest
    else if Json.Reader.isAsciiDigit c ∨ c = '-' then some (c :: rest)
    else none

def withoutPlus? : List Char → Option (List Char)
  | '+' :: '-' :: _ => none
  | '+' :: rest => some rest
  | cs => some cs

def simplified? (cs : List Char) : Option (List Char) := do
  let cs ← withoutZeros? (← withoutPlus? (Text.trimWhile Text.isWhiteSpace cs))
  let cs := withoutZeroFraction cs
  return (withoutUnderscores? cs).getD cs

def read (cs : List Char) : Except Fault Int :=
  match plain cs with
  | .error .unreadable => (simplified? cs).elim (.error .unreadable) plain
  | result => result

end Workflow.IntegerText
