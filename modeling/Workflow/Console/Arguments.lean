import Workflow.Keyed

/-!
Options and arguments on a command line. Options are words that start with a dash; their values
follow an equals sign, the letter of a short option, or in the next word. Two dashes end the
options.
-/

namespace Workflow

structure CommandOption where
  names : List String
  takesValue : Bool
deriving DecidableEq, Repr

namespace CommandOption

def key (o : CommandOption) : String := o.names.getLastD ""

def flag (names : List String) : CommandOption := ⟨names, false⟩

def value (names : List String) : CommandOption := ⟨names, true⟩

def help : CommandOption := .flag ["--help"]

end CommandOption

inductive OptionWord where
  | complete (found : List (String × String))
  | awaits (found : List (String × String)) (key : String)
  | wrong
deriving DecidableEq, Repr

structure Arguments where
  options : Keyed String
  words : List String
deriving DecidableEq, Repr

namespace Arguments

def find? (options : List CommandOption) (name : String) : Option CommandOption :=
  options.find? fun o => o.names.contains name

def readLetters (options : List CommandOption) (found : List (String × String)) :
    List Char → OptionWord
  | [] => .complete found
  | c :: rest =>
    match find? options (String.ofList ['-', c]) with
    | none => .wrong
    | some o =>
      if !o.takesValue then readLetters options (found ++ [(o.key, "")]) rest
      else if rest.isEmpty then .awaits found o.key
      else .complete (found ++ [(o.key, String.ofList rest)])

def splitValue (cs : List Char) : String × Option String :=
  let name := String.ofList (cs.takeWhile (· != '='))
  match cs.dropWhile (· != '=') with
  | [] => (name, none)
  | _ :: value => (name, some (String.ofList value))

def isShort (name : String) : Bool := name.length == 2

def readWord (options : List CommandOption) (word : String) : OptionWord :=
  let (name, value?) := splitValue word.toList
  match if isShort name then none else find? options name with
  | some o =>
    match o.takesValue, value? with
    | true, some value => .complete [(o.key, value)]
    | true, none => .awaits [] o.key
    | false, some _ => .wrong
    | false, none => .complete [(o.key, "")]
  | none =>
    match word.toList with
    | '-' :: '-' :: _ => .wrong
    | _ :: letters => readLetters options [] letters
    | [] => .wrong

def isOptionWord (word : String) : Bool := word.toList.head? == some '-' && word.length != 1

def scan (options : List CommandOption) (mixed : Bool) :
    List String → Option (List (String × String) × List String)
  | [] => some ([], [])
  | word :: rest =>
    if word = "--" then some ([], rest)
    else if isOptionWord word then
      match readWord options word with
      | .wrong => none
      | .complete found => (scan options mixed rest).map fun r => (found ++ r.1, r.2)
      | .awaits found key =>
        match rest with
        | [] => none
        | value :: rest =>
          (scan options mixed rest).map fun r => (found ++ (key, value) :: r.1, r.2)
    else if mixed then (scan options mixed rest).map fun r => (r.1, word :: r.2)
    else some ([], word :: rest)

def read (options : List CommandOption) (mixed : Bool) (line : List String) : Option Arguments :=
  (scan (.help :: options) mixed line).map fun r => ⟨Keyed.ofPairs r.1, r.2⟩

def has (a : Arguments) (o : CommandOption) : Bool := Keyed.has a.options o.key

def get? (a : Arguments) (o : CommandOption) : Option String := Keyed.find? a.options o.key

end Arguments

end Workflow
