import Workflow.Catalogue.Merge

/-!
Settings: where the state is kept, where workers report back, and how long to wait for them. The
environment goes before the settings file, and both before the defaults.
-/

namespace Workflow

structure Settings where
  databasePath : String
  baseUrl : String
  dispatchTimeout : Floating
  workerTimeout : Option Floating
  workersFile : Option String
deriving DecidableEq, Repr

inductive SettingsFault where
  | unreadable (file : String) (fault : FileFault)
  | notMapping (file : String)
  | invalid (issues : List Issue)
  | unsearchable (fault : PathFault) (path : String)
  | longNumber (digits : Nat)
deriving DecidableEq, Repr

def SettingsFault.isTold : SettingsFault → Bool
  | .unreadable _ _ | .notMapping _ | .invalid _ => true
  | .unsearchable _ _ | .longNumber _ => false

def SettingsFault.message : SettingsFault → String
  | .unreadable file fault => s!"Cannot read config {file}{fault.suffix file}"
  | .notMapping file => s!"Config {file} must be a mapping"
  | .invalid _ => "Invalid configuration"
  | .unsearchable fault path => fault.text path
  | .longNumber digits => Text.tooLongText digits

namespace Settings

def readPath : Reader String
  | .str s => .ok (Text.normalPath s)
  | _ => .issue .notPath

def readUrl : Reader String := fun x =>
  (fun s => String.ofList (s.toList.reverse.dropWhile (· == '/')).reverse) <$> Reader.text x

def readPositive : Reader Floating := fun x => (Reader.number x).andThen Reader.positive

def read : Reader Settings :=
  Reader.record "EngineConfig" fun ms =>
    mk <$> Reader.optional ms (.plain "db_path") ".stitch/state.db" readPath
      <*> Reader.optional ms (.plain "base_url") "http://localhost:3000" readUrl
      <*> Reader.optional ms (.plain "dispatch_timeout") (.finite ⟨false, 15, 1⟩) readPositive
      <*> Reader.optional ms (.plain "worker_timeout") none (Reader.nullable readPositive)
      <*> Reader.optional ms (.plain "workers_file") none (Reader.nullable readPath)

def view (s : Settings) : View :=
  .record
    [View.field (.plain "db_path") (.text s.databasePath),
      View.field (.plain "base_url") (.text s.baseUrl),
      View.field (.plain "dispatch_timeout") (.number s.dispatchTimeout),
      View.field (.plain "worker_timeout") (.nullable .number s.workerTimeout),
      View.field (.plain "workers_file") (.text? s.workersFile)]
    []

def callbackUrl (s : Settings) (runId nodeKey : String) : String :=
  s!"{s.baseUrl}/api/stitch/callback/{runId}/{nodeKey}"

def members (fs : Files) (path : String) : Except SettingsFault (Keyed Json) :=
  match fs.document path with
  | .error (.longNumber digits) => .error (.longNumber digits)
  | .error fault => .error (.unreadable path fault)
  | .ok (.obj members) => .ok members
  | .ok x => if x.isFalsy then .ok [] else .error (.notMapping path)

def fromEnvironment (environment : Keyed String) (name member : String) (ms : Keyed Json) :
    Keyed Json :=
  match Keyed.find? environment name with
  | none | some "" => ms
  | some value => Keyed.set ms member (.str value)

def firstExisting (fs : Files) : List String → Except SettingsFault (Option String)
  | [] => .ok none
  | path :: rest =>
    match fs.exists? path with
    | .ok true => .ok (some path)
    | .ok false => firstExisting fs rest
    | .error fault => .error (.unsearchable fault path)

def load (fs : Files) (environment : Keyed String) (path : Option String) (search : List String) :
    Except SettingsFault Settings := do
  let source ←
    match path with
    | some path => .ok (some (Text.normalPath path))
    | none => firstExisting fs (search.map Text.normalPath)
  let ms ← match source with
    | some file => members fs file
    | none => .ok []
  let ms := fromEnvironment environment "STITCH_DB_PATH" "db_path" ms
  let ms := fromEnvironment environment "STITCH_BASE_URL" "base_url" ms
  match read (.obj ms) with
  | .ok s => .ok s
  | .refused issues => .error (.invalid issues)

def searchPaths : List String := [".stitch/config.yaml"]

def catalogue (s : Settings) (fs : Files) : Except CatalogueFault Catalogue :=
  Catalogue.load fs s.workersFile

end Settings

end Workflow
