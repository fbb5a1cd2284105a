import Workflow.Json.Basic
import Workflow.Text.Quoted

/-!
The text of JSON values: on one line, or indented by two blanks a level.
-/

namespace Workflow.Json

structure Spelling where
  asciiOnly : Bool
  number : Floating → String

def plainNumber : Floating → String := Floating.spell "Infinity" "NaN" Binary64.text

def plain : Spelling := ⟨true, plainNumber⟩

def unescaped : Spelling := ⟨false, plainNumber⟩

def compactNumber : Floating → String
  | .finite x => x.compactText
  | .infinite _ | .nan _ => "null"

def compact : Spelling := ⟨false, compactNumber⟩

def unitEscape (n : Nat) : List Char := ['\\', 'u'] ++ Text.hex 4 n

def unicodeEscape (c : Char) : List Char :=
  let n := c.toNat
  if n < 0x10000 then unitEscape n
  else unitEscape (0xd800 + (n - 0x10000) / 0x400) ++ unitEscape (0xdc00 + (n - 0x10000) % 0x400)

def writeChar (asciiOnly : Bool) (c : Char) : List Char :=
  if c = '"' ∨ c = '\\' then ['\\', c]
  else if c = '\n' then ['\\', 'n']
  else if c = '\r' then ['\\', 'r']
  else if c = '\t' then ['\\', 't']
  else if c = '\x08' then ['\\', 'b']
  else if c = '\x0c' then ['\\', 'f']
  else if c.toNat < 0x20 ∨ (asciiOnly ∧ 0x7f ≤ c.toNat) then unicodeEscape c
  else [c]

def Spelling.string (f : Spelling) (s : String) : String :=
  String.ofList ('"' :: s.toList.flatMap (writeChar f.asciiOnly) ++ ['"'])

def Spelling.scalar (f : Spelling) : Json → String
  | .bool true => "true"
  | .bool false => "false"
  | .int n => toString n
  | .float x => f.number x
  | .str s => f.string s
  | _ => "null"

def join (sep : String) (parts : List String) : String := sep.intercalate parts

mutual

def Spelling.line (f : Spelling) : Json → String
  | .arr items => "[" ++ join ", " (lineItems f items) ++ "]"
  | .obj members => "\x7b" ++ join ", " (lineMembers f members) ++ "\x7d"
  | x => f.scalar x

def lineItems (f : Spelling) : List Json → List String
  | [] => []
  | x :: xs => f.line x :: lineItems f xs

def lineMembers (f : Spelling) : List (String × Json) → List String
  | [] => []
  | (k, x) :: rest => (f.string k ++ ": " ++ f.line x) :: lineMembers f rest

end

def newline (depth : Nat) : String := String.ofList ('\n' :: List.replicate (2 * depth) ' ')

def block (opening closing : String) (depth : Nat) (parts : List String) : String :=
  if parts.isEmpty then opening ++ closing
  else
    opening ++ newline (depth + 1) ++ join ("," ++ newline (depth + 1)) parts ++ newline depth ++
      closing

mutual

def Spelling.indented (f : Spelling) (depth : Nat) : Json → String
  | .arr items => block "[" "]" depth (indentedItems f (depth + 1) items)
  | .obj members => block "\x7b" "\x7d" depth (indentedMembers f (depth + 1) members)
  | x => f.scalar x

def indentedItems (f : Spelling) (depth : Nat) : List Json → List String
  | [] => []
  | x :: xs => f.indented depth x :: indentedItems f depth xs

def indentedMembers (f : Spelling) (depth : Nat) : List (String × Json) → List String
  | [] => []
  | (k, x) :: rest => (f.string k ++ ": " ++ f.indented depth x) :: indentedMembers f depth rest

end

end Workflow.Json
