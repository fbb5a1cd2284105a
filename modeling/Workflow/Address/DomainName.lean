import Workflow.Address.Composition
import Workflow.Address.Direction
import Workflow.Address.NameCharacter
import Workflow.Address.Punycode
import Workflow.Address.Surroundings
import Workflow.Text.Split

/-!
Host names of all scripts, written in plain characters. A name is cut at its full stops into labels;
a label that is not plain is checked, encoded, and marked as such.
-/

namespace Workflow.Address

def isFullStop (c : Char) : Bool := ['.', '。', '．', '｡'].contains c

def labels (name : List Char) : List (List Char) :=
  Text.splitOn '.' (name.map fun c => if isFullStop c then '.' else c)

def hasInnerHyphens (label : List Char) : Bool :=
  label.head? != some '-' && label.getLast? != some '-' && (label.drop 2).take 2 != ['-', '-']

def charactersSuit (before : List Char) : List Char → Bool
  | [] => true
  | c :: rest =>
    (isNameCharacter c || suitsPlace before c rest) && charactersSuit (c :: before) rest

def isLabel (label : List Char) : Bool :=
  !label.isEmpty && isComposed label && hasInnerHyphens label && !label.head?.any isMark &&
    charactersSuit [] label && hasOneDirection label

def encodedMark : List Char := ['x', 'n', '-', '-']

def isPlainLabel (label : List Char) : Bool :=
  if encodedMark.isPrefixOf label then
    let encoded := label.drop encodedMark.length
    !encoded.isEmpty && encoded.getLast? != some '-' &&
      (Punycode.decode? encoded).any isLabel
  else isLabel label

def longestLabel : Nat := 63

def longestName : Nat := 253

def plainLabel? (label : List Char) : Option (List Char) :=
  if longestLabel < label.length then none
  else
    let isPlain := label.all Punycode.isPlain
    let plain := if isPlain then label else encodedMark ++ Punycode.encode label
    let isSound := if isPlain then isPlainLabel label else isLabel label
    if isSound && plain.length ≤ longestLabel then some plain else none

def plainName? (name : List Char) : Option (List Char) := do
  let given := labels name
  let isClosed := given.getLast? == some []
  let plain ← (if isClosed then given.dropLast else given).mapM plainLabel?
  let text := ['.'].intercalate plain
  if plain.isEmpty || longestName < text.length then none
  else return if isClosed then text ++ ['.'] else text

end Workflow.Address
