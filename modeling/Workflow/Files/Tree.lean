import Workflow.Files.Location

/-!
The tree of files around the working directory. A path is walked name by name through directories
that exist, so that a name behind a missing one leads nowhere, even back up.
-/

namespace Workflow

inductive Entry where
  | directory
  | file (text : String)
  | store
deriving DecidableEq, Repr

structure Files where
  entries : List (Location × Entry)
deriving DecidableEq, Repr

inductive StoreFault where
  | directory (fault : PathFault) (path : String)
  | unopenable
  | notStore
  | noTable (name : String)
deriving DecidableEq, Repr

def StoreFault.message : StoreFault → String
  | .directory fault path => fault.text path
  | .unopenable => "unable to open database file"
  | .notStore => "file is not a database"
  | .noTable name => s!"no such table: {name}"

namespace Files

def empty : Files := ⟨[]⟩

def systemDirectories : List String :=
  ["bin", "boot", "dev", "etc", "home", "lib", "media", "mnt", "opt", "proc", "root", "run", "sbin",
    "srv", "sys", "tmp", "usr", "var"]

def systemEntry? : List String → Option Entry
  | ["dev", "null"] => some (.file "")
  | [name] => if systemDirectories.contains name then some .directory else none
  | _ => none

def entry? (fs : Files) (l : Location) : Option Entry :=
  match l.names, l.base with
  | [], _ => some .directory
  | names, .root => (fs.entries.lookup l).orElse fun _ => systemEntry? names
  | _, .above _ => fs.entries.lookup l

def set (fs : Files) (l : Location) (e : Entry) : Files :=
  ⟨(l, e) :: fs.entries.filter fun old => old.1 ≠ l⟩

def longestName : Nat := 255

def longestPath : Nat := 4095

def step (fs : Files) (here : Location) (segment : String) : Except PathFault Location :=
  match fs.entry? here with
  | none => .error .missing
  | some .directory =>
    if segment = "" ∨ segment = "." then .ok here
    else if segment = ".." then .ok here.parent
    else if longestName < segment.utf8ByteSize then .error .nameTooLong
    else .ok (here.child segment)
  | some _ => .error .notDirectory

def locate (fs : Files) (path : String) : Except PathFault Location :=
  if path.isEmpty then .error .missing
  else if longestPath < path.utf8ByteSize then .error .nameTooLong
  else (Text.parts '/' path).foldlM fs.step (.start path)

def find (fs : Files) (path : String) : Except PathFault Entry := do
  match fs.entry? (← fs.locate path) with
  | some e => return e
  | none => throw .missing

def exists? (fs : Files) (path : String) : Except PathFault Bool :=
  match fs.find path with
  | .ok _ => .ok true
  | .error .nameTooLong => .error .nameTooLong
  | .error _ => .ok false

def isDirectory (fs : Files) (path : String) : Bool :=
  match fs.find path with
  | .ok .directory => true
  | _ => false

def makeDirectory (fs : Files) (path : String) : Except PathFault Files := do
  let l ← fs.locate path
  match fs.entry? l with
  | some _ => throw .occupied
  | none => return fs.set l .directory

def ensureDirectory (fs : Files) (path : String) : Except PathFault Files :=
  match fs.makeDirectory path with
  | .error fault => if fs.isDirectory path then .ok fs else .error fault
  | made => made

def makeDirectories (fs : Files) (root : String) :
    List String → Except (PathFault × String) Files
  | [] => .ok fs
  | name :: up =>
    let path := root ++ "/".intercalate (name :: up).reverse
    match fs.makeDirectory path with
    | .error .missing => do
      let fs ← fs.makeDirectories root up
      (fs.ensureDirectory path).mapError fun fault => (fault, path)
    | _ => (fs.ensureDirectory path).mapError fun fault => (fault, path)

def makeParents (fs : Files) (path : String) : Except (PathFault × String) Files :=
  fs.makeDirectories (Text.pathRoot path.toList) ((Text.pathSegments path).reverse.drop 1)

def put (fs : Files) (path text : String) : Files :=
  match fs.makeParents path with
  | .error _ => fs
  | .ok fs =>
    match fs.locate (Text.normalPath path) with
    | .error _ => fs
    | .ok l => fs.set l (.file text)

def memoryPath : String := ":memory:"

def openStore (fs : Files) (path : String) : Except StoreFault (Option Location × Files) := do
  if path = memoryPath then return (none, fs)
  let fs ← (fs.makeParents path).mapError fun f => .directory f.1 f.2
  let l ← (fs.locate path).mapError fun _ => .unopenable
  match fs.entry? l with
  | some .store => return (some l, fs)
  | some .directory => throw .unopenable
  | none | some (.file "") => return (some l, fs.set l .store)
  | some (.file _) => throw .notStore

end Files

end Workflow
