import Workflow.Document.Reader

/-!
Values seen as documents: which fields a record has, which of them were given, and which members it
keeps beyond its fields.
-/

namespace Workflow

inductive View where
  | plain (x : Json)
  | number (x : Floating)
  | untyped (x : Json)
  | list (items : List View)
  | mapping (entries : List (String × View))
  | record (fields : List (FieldName × Bool × View)) (extras : List (String × Json))

namespace View

variable {α : Type}

def text (s : String) : View := .plain (.str s)

def nullable (view : α → View) (a : Option α) : View := a.elim (.plain .null) view

def text? (s : Option String) : View := nullable text s

def object (members : Keyed Json) : View := .untyped (.obj members)

def named [Named α] (a : α) : View := text (Named.name a)

def listOf (view : α → View) (xs : List α) : View := .list (xs.map view)

def mappingOf (view : α → View) (m : Keyed α) : View := .mapping (m.map fun e => (e.1, view e.2))

def field (f : FieldName) (v : View) : FieldName × Bool × View := (f, true, v)

def fieldOf (f : FieldName) (view : α → View) (a : Option α) (default : View) :
    FieldName × Bool × View :=
  (f, a.isSome, a.elim default view)

mutual

def dump : View → Json
  | .plain x => x
  | .number x => .float x
  | .untyped x => x.written
  | .list items => .arr (dumpItems items)
  | .mapping entries => .obj (dumpEntries entries)
  | .record fields extras => .obj (Keyed.merge (dumpFields fields) (Json.writtenMembers extras))

def dumpItems : List View → List Json
  | [] => []
  | v :: vs => dump v :: dumpItems vs

def dumpEntries : List (String × View) → List (String × Json)
  | [] => []
  | (k, v) :: rest => (k, dump v) :: dumpEntries rest

def dumpFields : List (FieldName × Bool × View) → List (String × Json)
  | [] => []
  | (f, _, v) :: rest => (f.name, dump v) :: dumpFields rest

end

mutual

def stored (byLabel : Bool) : View → Json
  | .plain x => x
  | .number x => .float x.written
  | .untyped x => x.written
  | .list items => .arr (storedItems byLabel items)
  | .mapping entries => .obj (storedEntries byLabel entries)
  | .record fields extras =>
    .obj (Keyed.merge (storedFields byLabel fields) (Json.writtenMembers extras))

def storedItems (byLabel : Bool) : List View → List Json
  | [] => []
  | v :: vs => stored byLabel v :: storedItems byLabel vs

def storedEntries (byLabel : Bool) : List (String × View) → List (String × Json)
  | [] => []
  | (k, v) :: rest => (k, stored byLabel v) :: storedEntries byLabel rest

def storedFields (byLabel : Bool) : List (FieldName × Bool × View) → List (String × Json)
  | [] => []
  | (f, isGiven, v) :: rest =>
    let others := storedFields byLabel rest
    if isGiven then (if byLabel then f.label else f.name, stored byLabel v) :: others else others

end

def isNull : View → Bool
  | .plain .null | .untyped .null => true
  | _ => false

mutual

/-- The dump without the fields and further members of records that are null. What is only written
as null is not left out. -/
def canonical : View → Json
  | .plain x => x
  | .number x => .float x
  | .untyped x => x.written
  | .list items => .arr (canonicalItems items)
  | .mapping entries => .obj (canonicalEntries entries)
  | .record fields extras =>
    .obj (Keyed.merge (canonicalFields fields)
      (Json.writtenMembers (extras.filter fun e => !e.2.isNull)))

def canonicalItems : List View → List Json
  | [] => []
  | v :: vs => canonical v :: canonicalItems vs

def canonicalEntries : List (String × View) → List (String × Json)
  | [] => []
  | (k, v) :: rest => (k, canonical v) :: canonicalEntries rest

def canonicalFields : List (FieldName × Bool × View) → List (String × Json)
  | [] => []
  | (f, _, v) :: rest =>
    let others := canonicalFields rest
    if v.isNull then others else (f.name, canonical v) :: others

end

end View

end Workflow
