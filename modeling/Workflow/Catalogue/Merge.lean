import Workflow.Catalogue.Builtin
import Workflow.Files

/-!
Merging files of worker types into a catalogue. Types of later files replace those of earlier ones.
-/

namespace Workflow

inductive CatalogueFault where
  | unreadable (file : String) (fault : FileFault)
  | notADocument
  | notMapping (file : String)
  | bodyNotMapping
  | invalidType (file type : String) (issues : List Issue)
  | unsearchable (fault : PathFault) (path : String)
  | longNumber (digits : Nat)
deriving DecidableEq, Repr

def CatalogueFault.isTold : CatalogueFault → Bool
  | .unreadable _ _ | .notMapping _ | .invalidType _ _ _ => true
  | .notADocument | .bodyNotMapping | .unsearchable _ _ | .longNumber _ => false

def CatalogueFault.message : CatalogueFault → String
  | .unreadable file fault => s!"Cannot read worker definitions from {file}{fault.suffix file}"
  | .notMapping file => s!"{file}: 'workers' must be a mapping of type -> definition"
  | .invalidType file type _ => s!"{file}: invalid definition for worker '{type}'"
  | .notADocument | .bodyNotMapping => ""
  | .unsearchable fault path => fault.text path
  | .longNumber digits => Text.tooLongText digits

namespace Catalogue

/-- What a merge leaves: the catalogue with all types before the first fault. -/
structure Merged where
  catalogue : Catalogue
  fault : Option CatalogueFault
deriving DecidableEq, Repr

def definition (file type : String) (body : Json) : Except CatalogueFault WorkerType :=
  let members? : Option (Keyed Json) :=
    match body with
    | .obj members => some members
    | x => if x.isFalsy then some [] else none
  match members? with
  | none => .error .bodyNotMapping
  | some members =>
    match WorkerType.read (.obj (Keyed.merge [("id", .str type)] members)) with
    | .ok w => .ok w
    | .refused issues => .error (.invalidType file type issues)

def mergeTypes (file : String) (c : Catalogue) : List (String × Json) → Merged
  | [] => ⟨c, none⟩
  | (type, body) :: rest =>
    match definition file type body with
    | .ok w => mergeTypes file (Keyed.set c type w) rest
    | .error fault => ⟨c, some fault⟩

def mergeDocument (file : String) (c : Catalogue) (document : Json) : Merged :=
  match document with
  | .obj members =>
    match (Keyed.find? members "workers").getD (.obj []) with
    | .obj types => mergeTypes file c types
    | _ => ⟨c, some (.notMapping file)⟩
  | x => if x.isFalsy then ⟨c, none⟩ else ⟨c, some .notADocument⟩

def mergeFile (fs : Files) (path : String) (c : Catalogue) : Merged :=
  match fs.document path with
  | .ok document => mergeDocument path c document
  | .error (.longNumber digits) => ⟨c, some (.longNumber digits)⟩
  | .error fault => ⟨c, some (.unreadable path fault)⟩

def Merged.toExcept (m : Merged) : Except CatalogueFault Catalogue :=
  match m.fault with
  | none => .ok m.catalogue
  | some fault => .error fault

def load (fs : Files) (path? : Option String) : Except CatalogueFault Catalogue :=
  match path? with
  | none => .ok builtin
  | some path =>
    match fs.exists? path with
    | .ok true => (mergeFile fs path builtin).toExcept
    | .ok false => .ok builtin
    | .error fault => .error (.unsearchable fault path)

end Catalogue

end Workflow
