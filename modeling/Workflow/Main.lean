import Workflow.Console.Picture
import Workflow.Console.Session

/-!
The program: carries out the command line that it is given, or else each line of its standard
input in turn, on stores that live as long as the program. Requests to workers are printed and
taken as accepted.
-/

namespace Workflow.Program

def readFilesInto (fs : Files) (paths : List String) : IO Files :=
  paths.foldlM (fun (fs : Files) (path : String) => do
    try return fs.put path (← IO.FS.readFile path)
    catch _ => return fs) fs

def readEnvironment : IO (Keyed String) :=
  ["STITCH_DB_PATH", "STITCH_BASE_URL"].foldlM (fun env name => do
    match ← IO.getEnv name with
    | some value => return env ++ [(name, value)]
    | none => return env) []

def filesFor (environment : Keyed String) (line : List String) : IO Files := do
  let fs ← readFilesInto .empty (Settings.searchPaths ++ line)
  let launch? := (Launch.read fs line).toOption
  match Settings.load fs environment (launch?.bind (·.settingsFile)) Settings.searchPaths with
  | .ok s => readFilesInto fs s.workersFile.toList
  | .error _ => return fs

def postLater (_ : Settings) (c : Catalogue) : Dispatcher := fun _ q =>
  c.deliver "" (.answered 202 "") q

def printPerformance (before : Host) (p : Performance) : IO Unit := do
  for picture in p.shown do
    for line in picture.lines do
      IO.println line
  IO.print p.output
  for s in p.host.sent.drop before.sent.length do
    match s.delivery.target? with
    | some target => IO.println s!"POST {target} {Json.unescaped.line s.request.payload}"
    | none => pure ()

def runLine (environment : Keyed String) (h : Host) (line : List String) : IO (Nat × Host) := do
  let now := Instant.epoch2024.plus (1000 * (← IO.monoMsNow))
  let h := { h with files := ← filesFor environment line, now }
  let p := Performance.ofLine postLater environment h line
  printPerformance h p
  return (p.ending.exitCode, p.host)

partial def runLines (environment : Keyed String) (h : Host) (input : IO.FS.Stream) : IO Unit := do
  let line ← input.getLine
  if line.isEmpty then return
  let words := (line.trimAscii.toString.splitOn " ").filter fun w => !w.isEmpty
  let (_, h) ← runLine environment h words
  runLines environment h input

def run (args : List String) : IO UInt32 := do
  let environment ← readEnvironment
  let h : Host := ⟨.empty, [], .epoch2024, 0, [], none⟩
  if args.isEmpty then
    runLines environment h (← IO.getStdin)
    return 0
  else
    let (code, _) ← runLine environment h args
    return code.toUInt32

end Workflow.Program

def main (args : List String) : IO UInt32 := Workflow.Program.run args
