import Workflow.Json.Basic
import Workflow.Text.Quoted

/-!
Values as they stand in messages: `None`, `True`, quoted texts.
-/

namespace Workflow.Json

mutual

def quoted : Json → String
  | .null => "None"
  | .bool true => "True"
  | .bool false => "False"
  | .int n => toString n
  | .float x => x.text
  | .str s => Text.quoted s
  | .arr items => "[" ++ ", ".intercalate (quotedItems items) ++ "]"
  | .obj members => "\x7b" ++ ", ".intercalate (quotedMembers members) ++ "\x7d"

def quotedItems : List Json → List String
  | [] => []
  | x :: xs => quoted x :: quotedItems xs

def quotedMembers : List (String × Json) → List String
  | [] => []
  | (k, x) :: rest => (Text.quoted k ++ ": " ++ quoted x) :: quotedMembers rest

end

def display : Json → String
  | .str s => s
  | x => quoted x

end Workflow.Json
