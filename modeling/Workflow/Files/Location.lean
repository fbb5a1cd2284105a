import Workflow.Text.Quoted
import Workflow.Text.Split

/-!
Places in the tree of files, and why a path leads to none. The normal form of a path is without empty
segments and single points; two points stay.
-/

namespace Workflow.Text

def pathRoot (cs : List Char) : String :=
  match cs.takeWhile (· == '/') with
  | [] => ""
  | ['/', '/'] => "//"
  | _ => "/"

def pathSegments (path : String) : List String :=
  (parts '/' path).filter fun s => s ≠ "" ∧ s ≠ "."

def normalPath (path : String) : String :=
  let text := pathRoot path.toList ++ "/".intercalate (pathSegments path)
  if text.isEmpty then "." else text

end Workflow.Text

namespace Workflow

inductive Location.Base where
  | root
  | above (levels : Nat)
deriving DecidableEq, Repr

structure Location where
  base : Location.Base
  names : List String
deriving DecidableEq, Repr

namespace Location

def working : Location := ⟨.above 0, []⟩

def child (l : Location) (name : String) : Location := { l with names := l.names ++ [name] }

def parent (l : Location) : Location :=
  match l.names, l.base with
  | [], .root => l
  | [], .above levels => ⟨.above (levels + 1), []⟩
  | names, base => ⟨base, names.dropLast⟩

def start (path : String) : Location :=
  if path.toList.head? = some '/' then ⟨.root, []⟩ else working

def text (l : Location) : String :=
  match l.base with
  | .root => "/" ++ "/".intercalate l.names
  | .above levels => "/".intercalate (List.replicate levels ".." ++ l.names)

end Location

inductive PathFault where
  | missing
  | occupied
  | notDirectory
  | isDirectory
  | nameTooLong
deriving DecidableEq, Repr

namespace PathFault

def number : PathFault → Nat
  | .missing => 2
  | .occupied => 17
  | .notDirectory => 20
  | .isDirectory => 21
  | .nameTooLong => 36

def description : PathFault → String
  | .missing => "No such file or directory"
  | .occupied => "File exists"
  | .notDirectory => "Not a directory"
  | .isDirectory => "Is a directory"
  | .nameTooLong => "File name too long"

def text (f : PathFault) (path : String) : String :=
  s!"[Errno {f.number}] {f.description}: {Text.quoted path}"

end PathFault

end Workflow
