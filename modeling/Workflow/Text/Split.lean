/-!
Cutting texts: at a separator, and after so many characters.
-/

namespace Workflow.Text

def splitOn (sep : Char) : List Char → List (List Char)
  | [] => [[]]
  | c :: cs =>
    if c = sep then [] :: splitOn sep cs
    else
      match splitOn sep cs with
      | [] => [[c]]
      | part :: parts => (c :: part) :: parts

theorem splitOn_ne_nil (sep : Char) (cs : List Char) : splitOn sep cs ≠ [] := by
  cases cs with
  | nil => simp [splitOn]
  | cons c cs =>
    rw [splitOn]
    split
    · simp
    · split <;> simp

def parts (sep : Char) (s : String) : List String := (splitOn sep s.toList).map String.ofList

def firstOf (n : Nat) (s : String) : String := String.ofList (s.toList.take n)

end Workflow.Text
