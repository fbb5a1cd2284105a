import Workflow.Files.Tree
import Workflow.Json.Reader
import Workflow.Text.Blank

/-!
The documents in files. They are written in JSON; an empty file stands for null.
-/

namespace Workflow

inductive FileFault where
  | path (fault : PathFault)
  | unreadable
  | longNumber (digits : Nat)
deriving DecidableEq, Repr

def FileFault.suffix (path : String) : FileFault → String
  | .path fault => s!": {fault.text path}"
  | .unreadable | .longNumber _ => ""

namespace Files

def text (fs : Files) (path : String) : Except FileFault String :=
  match fs.find path with
  | .ok (.file s) => .ok (String.ofList (Text.unifyLineEnds s.toList))
  | .ok .store => .error .unreadable
  | .ok .directory => .error (.path .isDirectory)
  | .error fault => .error (.path fault)

def hasFile (fs : Files) (path : String) : Bool :=
  match fs.find path with
  | .ok e => e ≠ .directory
  | .error _ => false

def parse (text : String) : Except FileFault Json :=
  if (Text.trimBlank text).isEmpty then .ok .null
  else
    match Json.readAny text with
    | .error _ => .error .unreadable
    | .ok x => x.longNumber?.elim (.ok x) fun digits => .error (.longNumber digits)

def document (fs : Files) (path : String) : Except FileFault Json := do parse (← fs.text path)

end Files

end Workflow
