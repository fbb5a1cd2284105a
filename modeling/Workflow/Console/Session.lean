import Workflow.Console.Commands
import Workflow.Console.PlanView
import Workflow.Console.Tables
import Workflow.Versions
import Workflow.Watchdog

/-!
Carrying out commands. A command shows pictures, may write an output of its own, and ends well or
badly; whatever it has written until then stays.
-/

namespace Workflow

inductive Crash where
  | operation (f : Failure)
  | catalogue (f : CatalogueFault)
  | settings (f : SettingsFault)
  | store (f : StoreFault)
  | longNumber (digits : Nat)
deriving DecidableEq, Repr

inductive Ending where
  | finished
  | usage
  | failed
  | crashed (c : Crash)
deriving DecidableEq, Repr

def Ending.exitCode : Ending → Nat
  | .finished => 0
  | .usage => 2
  | .failed | .crashed _ => 1

structure Screen where
  world : World
  files : Files
  shown : List Picture
  output : String

abbrev Console := EStateM Ending Screen

structure Desk where
  settings : Settings
  dispatcher : Catalogue → Dispatcher

namespace Console

def picture (p : Picture) : Console Unit := modify fun s => { s with shown := s.shown ++ [p] }

def line (markup : String) : Console Unit := picture (.line markup)

def write (text : String) : Console Unit := modify fun s => { s with output := s.output ++ text }

def errorLine (message : String) : String := s!"[red]Error: {message}[/red]"

def fail {α : Type} (message : String) : Console α := do
  line (errorLine message)
  throw .failed

def attempt {α : Type} (a : Action α) : Console (Except Failure α) := fun s =>
  match a s.world with
  | .ok x w => .ok (.ok x) { s with world := w }
  | .error f w => .ok (.error f) { s with world := w }

def act {α : Type} (a : Action α) : Console α := do
  match ← attempt a with
  | .ok x => return x
  | .error f => throw (.crashed (.operation f))

def isExpected : Failure → Bool
  | .flowNotFound _ | .versionNotFound _ | .runNotFound _ | .illegalMove _ _ => true
  | f => f.isLookup

def expecting {α : Type} (a : Action α) : Console α := do
  match ← attempt a with
  | .ok x => return x
  | .error f => if isExpected f then fail f.text else throw (.crashed (.operation f))

def catalogue (d : Desk) : Console Catalogue := do
  match d.settings.catalogue (← get).files with
  | .ok c => return c
  | .error f => throw (.crashed (.catalogue f))

def openStore (d : Desk) : Console Unit := do
  match (← get).files.openStore d.settings.databasePath with
  | .ok (_, files) => modify fun s => { s with files }
  | .error f => throw (.crashed (.store f))

def useTable (d : Desk) (name : String) : Console Unit := do
  if d.settings.databasePath = Files.memoryPath then throw (.crashed (.store (.noTable name)))

def engine (d : Desk) : Console Engine := do
  let c ← catalogue d
  openStore d
  return ⟨d.settings, d.dispatcher c⟩

inductive CanvasFileFault where
  | malformed (message : String)
  | longNumber (digits : Nat)

def document (path text : String) : Except CanvasFileFault Json :=
  if path.endsWith ".json" then
    (Json.read text).mapError fun
      | .malformed e => .malformed e.message
      | .longNumber digits => .longNumber digits
  else
    (Files.parse text).mapError fun
      | .longNumber digits => .longNumber digits
      | _ => .malformed ""

def Issue.line (i : Issue) : String :=
  let place := ".".intercalate (i.path.map fun s =>
    match s with
    | .member name => name
    | .item index => toString index)
  s!"  - {place}: {i.cause.message}"

def readCanvas (x : Json) : Console Canvas := do
  match Canvas.read x with
  | .ok c => return c
  | .refused issues =>
    line "[red]Error validating graph schema:[/red]"
    issues.forM fun i => line (Issue.line i)
    throw .failed

def loadCanvas (path : String) : Console Canvas := do
  match document path (((← get).files.text path).toOption.getD "") with
  | .error (.longNumber digits) => throw (.crashed (.longNumber digits))
  | .error (.malformed message) =>
    line s!"[red]Error parsing graph file '{path}':[/red]"
    line s!"  {message}"
    throw .failed
  | .ok (.obj members) => readCanvas (.obj members)
  | .ok x => fail s!"Invalid graph file '{path}'. Expected a mapping, got {x.kindName}."

def showFindings {α : Type} (findings : List Finding) : Console α := do
  picture (.table (findingTable findings))
  throw .failed

def loadPlan (c : Canvas) (catalogue : Catalogue) : Console Plan := do
  match c.compile catalogue with
  | .ok p => return p
  | .error findings => showFindings findings

def option (text? : Option String) : Console (Option Json) :=
  match text? with
  | none => return none
  | some text =>
    match Json.read text with
    | .ok x => return some x.written
    | .error (.malformed _) => throw .usage
    | .error (.longNumber digits) => throw (.crashed (.longNumber digits))

def validate (d : Desk) (file : String) : Console Unit := do
  let canvas ← loadCanvas file
  match d.settings.catalogue (← get).files with
  | .error f => if f.isTold then fail f.message else throw (.crashed (.catalogue f))
  | .ok c =>
    let _ ← loadPlan canvas c
    line "[green]Graph is valid[/green]"
    line s!"  Nodes: {canvas.nodes.length}"
    line s!"  Edges: {canvas.edges.length}"

def listText (names : List String) : String := ", ".intercalate names

def pathText (names : List String) : String := " -> ".intercalate names

def compile (d : Desk) (file : String) (levels json : Bool) : Console Unit := do
  let canvas ← loadCanvas file
  let p ← loadPlan canvas (← catalogue d)
  if json then write (Json.compact.indented 0 p.view.dump ++ "\n")
  else
    picture (.tree (← act (World.lift (p.tree []))))
    line s!"Entry nodes: {listText p.entryNodes}"
    line s!"Terminal nodes: {listText p.terminalNodes}"
    if levels then
      picture (.table (← act (World.lift p.levelTable)))
      line s!"Critical path: {pathText (p.criticalPath?.getD [])}"

def createFlow (d : Desk) (name canvasType : String) (parent : Option String) : Console Unit := do
  openStore d
  let _ ← catalogue d
  let f ← act (Versions.createFlow name canvasType parent)
  useTable d "flows"
  line s!"[green]Created flow {f.id}[/green] ({name})"

def saving {α : Type} (d : Desk) (a : Action α) : Console α := do
  match ← attempt a with
  | .ok x => return x
  | .error (.invalidCanvas findings) => showFindings findings
  | .error (.flowNotFound id) =>
    useTable d "flows"
    fail (Failure.flowNotFound id).message
  | .error f => throw (.crashed (.operation f))

def createVersion (d : Desk) (flow file : String) (message : Option String) : Console Unit := do
  let canvas ← loadCanvas file
  openStore d
  let v ← saving d (Versions.createVersion (← catalogue d) flow canvas message)
  line s!"[green]Created version {v.id}[/green]"

def listVersions (d : Desk) (flow : String) : Console Unit := do
  openStore d
  let _ ← catalogue d
  useTable d "flows"
  let store := (← get).world.store
  match store.flow? flow with
  | none => fail (Failure.flowNotFound flow).message
  | some _ => picture (.table (versionTable (store.listVersions flow)))

def printRun (d : Desk) (runId : String) : Console Unit := do
  openStore d
  useTable d "runs"
  match ← act (World.run? runId) with
  | none => fail (Failure.runNotFound runId).message
  | some r =>
    let _ ← catalogue d
    let plan? := ((← get).world.store.version? r.versionId).map (·.plan)
    picture (.table (← act (World.lift (r.table plan?))))
    let finished ← act (World.lift (Failure.ofMissing r.isFinished))
    let counts ← act (World.lift (Failure.ofMissing r.statusCounts))
    let state := if finished then "finished" else "in progress"
    line s!"Run {state}: {(Json.obj (Keyed.mapValues Json.ofNat counts)).display}"

def runInput (text? : Option String) : Console (Option (Keyed Json)) := do
  match ← option text? with
  | none | some .null => return none
  | some (.obj members) => return some members
  | some _ => throw .usage

def startRun (d : Desk) (flow file : String) (entity input : Option String)
    (trigger : TriggerKind) : Console Unit := do
  let canvas ← loadCanvas file
  let input ← runInput input
  openStore d
  let version ← saving d (Versions.versionFor (← catalogue d) flow canvas)
  let r ← expecting ((← engine d).startRun version ⟨trigger, some "cli", none⟩ entity input)
  line s!"[blue]Started run {r.id}[/blue] (version {version})"
  printRun d r.id

def showRun (d : Desk) (runId : String) (json : Bool) : Console Unit := do
  if json then
    let _ ← engine d
    useTable d "runs"
    let statuses ← expecting (Engine.runStatus runId)
    let document := Json.obj (statuses.map fun s => (s.1, .str s.2.name))
    write (Json.plain.indented 0 document ++ "\n")
  else printRun d runId

def drive (d : Desk) (runId : String) (operation : Engine → Action Run) : Console Unit := do
  let e ← engine d
  useTable d "runs"
  let _ ← expecting (operation e)
  printRun d runId

def report (d : Desk) (runId key : String) (result : WorkerResult) (output error : Option String) :
    Console Unit := do
  let c : Callback := ⟨result, (← option output).getD .null, error⟩
  drive d runId fun e => e.handleCallback runId key c

def resume (d : Desk) (runId key input : String) : Console Unit := do
  let input := (← option (some input)).getD .null
  drive d runId fun e => e.submitInput runId key input

def timeline (d : Desk) (runId : String) : Console Unit := do
  openStore d
  useTable d "runs"
  match ← act (World.run? runId) with
  | none => fail (Failure.runNotFound runId).message
  | some _ =>
    let events := (← get).world.store.findEvents none (some runId) []
    picture (.table (eventTable events))

def timeoutOf (d : Desk) (timeout : Option Floating) : Option Floating :=
  (timeout.filter fun t => !t.isZero).orElse fun _ => d.settings.workerTimeout

def watch (d : Desk) (timeout : Option Floating) (once : Bool) : Console Unit := do
  match timeoutOf d timeout with
  | none => fail "No timeout given (use --timeout or set worker_timeout in the config)"
  | some timeout =>
    let e ← engine d
    if once then
      let stale ← act (Watchdog.sweep e timeout (← get).world.now)
      useTable d "runs"
      line s!"Timed out {stale.length} node(s)"
      stale.forM fun p => line s!"  - {p.1}: {p.2}"
    else line s!"[blue]Watching for workers running longer than {timeout.briefText}s[/blue]"

def execute (d : Desk) : Command → Console Unit
  | .validate file => validate d file
  | .compile file levels json => compile d file levels json
  | .createFlow name canvasType parent => createFlow d name canvasType parent
  | .createVersion flow file message => createVersion d flow file message
  | .listVersions flow => listVersions d flow
  | .startRun flow file entity input trigger => startRun d flow file entity input trigger
  | .showRun run json => showRun d run json
  | .report run key result output error => report d run key result output error
  | .resume run key input => resume d run key input
  | .retry run key => drive d run fun e => e.retryNode run key
  | .reconcile run => drive d run fun e => e.reconcileRun run
  | .timeline run => timeline d run
  | .watch timeout once => watch d timeout once

end Console

structure Host where
  files : Files
  stores : Keyed Store
  now : Instant
  issued : Nat
  sent : List Sending
  rival : Option RivalWrite

namespace Host

/-- Where the store of a path is. A store that cannot be opened is nowhere, as is one in memory. -/
def place? (h : Host) (path : String) : Option String := do
  let (l?, _) ← (h.files.openStore path).toOption
  return (← l?).text

def world (h : Host) (place? : Option String) : World :=
  ⟨(place?.bind (Keyed.find? h.stores)).getD .empty, h.now, h.issued, h.sent, h.rival⟩

def keep (h : Host) (place? : Option String) (w : World) : Host :=
  { h with
    stores := place?.elim h.stores fun place => Keyed.set h.stores place w.store
    now := w.now
    issued := w.issued
    sent := w.sent
    rival := w.rival }

end Host

structure Performance where
  ending : Ending
  shown : List Picture
  output : String
  host : Host

namespace Performance

def ofMisuse (h : Host) : Misuse → Performance
  | .wrong => ⟨.usage, [], "", h⟩
  | .question answer => ⟨.finished, [], answer, h⟩

def ofConsole (h : Host) (path : String) (c : Console Unit) : Performance :=
  let place? := h.place? path
  let kept (s : Screen) : Host := { h.keep place? s.world with files := s.files }
  match c ⟨h.world place?, h.files, [], ""⟩ with
  | .ok () s => ⟨.finished, s.shown, s.output, kept s⟩
  | .error ending s => ⟨ending, s.shown, s.output, kept s⟩

def ofSettingsFault (h : Host) (fault : SettingsFault) : Performance :=
  if fault.isTold then ⟨.failed, [.line (Console.errorLine fault.message)], "", h⟩
  else ⟨.crashed (.settings fault), [], "", h⟩

def ofLine (post : Settings → Catalogue → Dispatcher) (environment : Keyed String) (h : Host)
    (line : List String) : Performance :=
  match Launch.read h.files line with
  | .error misuse => ofMisuse h misuse
  | .ok launch =>
    match Settings.load h.files environment launch.settingsFile Settings.searchPaths with
    | .error fault => ofSettingsFault h fault
    | .ok settings =>
      match launch.entry.read h.files launch.rest with
      | .error misuse => ofMisuse h misuse
      | .ok command =>
        ofConsole h settings.databasePath
          (Console.execute ⟨settings, post settings⟩ command)

end Performance

end Workflow
