import Workflow.Console.Arguments
import Workflow.Document.Reader
import Workflow.Files
import Workflow.Run.Callback

/-!
The commands of the console, and how they are read from a command line.
-/

namespace Workflow

inductive Command where
  | validate (file : String)
  | compile (file : String) (levels json : Bool)
  | createFlow (name canvasType : String) (parent : Option String)
  | createVersion (flow file : String) (message : Option String)
  | listVersions (flow : String)
  | startRun (flow file : String) (entity input : Option String) (trigger : TriggerKind)
  | showRun (run : String) (json : Bool)
  | report (run key : String) (result : WorkerResult) (output error : Option String)
  | resume (run key input : String)
  | retry (run key : String)
  | reconcile (run : String)
  | timeline (run : String)
  | watch (timeout : Option Floating) (once : Bool)
deriving DecidableEq, Repr

inductive Misuse where
  | wrong
  | question (answer : String)
deriving DecidableEq, Repr

structure CommandForm where
  options : List CommandOption
  read : Files → Arguments → Except Misuse Command

namespace Command

def joinDigits (afterDigit : Bool) : List Char → Option (List Char)
  | [] => some []
  | c :: rest =>
    if c = '_' then
      if afterDigit && rest.head?.any Json.Reader.isAsciiDigit then joinDigits false rest else none
    else (joinDigits (Json.Reader.isAsciiDigit c) rest).map (c :: ·)

def number (s : String) : Except Misuse Floating :=
  let cs := (Text.trimWhile Text.isBlank s.toList).map Text.westernDigit
  match (joinDigits false cs).bind Reader.decimal? with
  | some x => .ok x
  | none => .error .wrong

def number? (s? : Option String) : Except Misuse (Option Floating) :=
  match s? with
  | none => .ok none
  | some s => some <$> number s

def choice (α : Type) [Named α] (s : String) : Except Misuse α :=
  match Named.ofName? s with
  | some a => .ok a
  | none => .error .wrong

def existing (fs : Files) (path : String) : Except Misuse String :=
  if fs.hasFile path then .ok path else .error .wrong

def given (s? : Option String) : Except Misuse String := s?.elim (.error .wrong) .ok

def levelsFlag : CommandOption := .flag ["--levels"]

def jsonFlag : CommandOption := .flag ["--json"]

def canvasTypeOption : CommandOption := .value ["--canvas-type"]

def parentOption : CommandOption := .value ["--parent"]

def messageOption : CommandOption := .value ["-m", "--message"]

def entityOption : CommandOption := .value ["--entity"]

def inputOption : CommandOption := .value ["--input"]

def triggerOption : CommandOption := .value ["--trigger"]

def statusOption : CommandOption := .value ["--status"]

def outputOption : CommandOption := .value ["--output"]

def errorOption : CommandOption := .value ["--error"]

def timeoutOption : CommandOption := .value ["--timeout"]

def intervalOption : CommandOption := .value ["--interval"]

def onceFlag : CommandOption := .flag ["--once"]

def validateForm : CommandForm where
  options := []
  read fs a :=
    match a.words with
    | [file] => return .validate (← existing fs file)
    | _ => throw .wrong

def compileForm : CommandForm where
  options := [levelsFlag, jsonFlag]
  read fs a :=
    match a.words with
    | [file] => return .compile (← existing fs file) (a.has levelsFlag) (a.has jsonFlag)
    | _ => throw .wrong

def createFlowForm : CommandForm where
  options := [canvasTypeOption, parentOption]
  read _ a :=
    match a.words with
    | [name] =>
      return .createFlow name ((a.get? canvasTypeOption).getD "workflow") (a.get? parentOption)
    | _ => throw .wrong

def createVersionForm : CommandForm where
  options := [messageOption]
  read fs a :=
    match a.words with
    | [flow, file] => return .createVersion flow (← existing fs file) (a.get? messageOption)
    | _ => throw .wrong

def listVersionsForm : CommandForm where
  options := []
  read _ a :=
    match a.words with
    | [flow] => return .listVersions flow
    | _ => throw .wrong

def startRunForm : CommandForm where
  options := [entityOption, inputOption, triggerOption]
  read fs a :=
    match a.words with
    | [flow, file] => do
      let trigger ← choice TriggerKind ((a.get? triggerOption).getD "manual")
      return .startRun flow (← existing fs file) (a.get? entityOption) (a.get? inputOption) trigger
    | _ => throw .wrong

def showRunForm : CommandForm where
  options := [jsonFlag]
  read _ a :=
    match a.words with
    | [run] => return .showRun run (a.has jsonFlag)
    | _ => throw .wrong

def reportForm : CommandForm where
  options := [statusOption, outputOption, errorOption]
  read _ a :=
    match a.words with
    | [run, key] => do
      let result ← choice WorkerResult (← given (a.get? statusOption))
      return .report run key result (a.get? outputOption) (a.get? errorOption)
    | _ => throw .wrong

def resumeForm : CommandForm where
  options := [inputOption]
  read _ a :=
    match a.words with
    | [run, key] => return .resume run key (← given (a.get? inputOption))
    | _ => throw .wrong

def retryForm : CommandForm where
  options := []
  read _ a :=
    match a.words with
    | [run, key] => return .retry run key
    | _ => throw .wrong

def reconcileForm : CommandForm where
  options := []
  read _ a :=
    match a.words with
    | [run] => return .reconcile run
    | _ => throw .wrong

def timelineForm : CommandForm where
  options := []
  read _ a :=
    match a.words with
    | [run] => return .timeline run
    | _ => throw .wrong

def watchForm : CommandForm where
  options := [timeoutOption, intervalOption, onceFlag]
  read _ a :=
    match a.words with
    | [] => do
      let timeout ← number? (a.get? timeoutOption)
      let _ ← number? (a.get? intervalOption)
      return .watch timeout (a.has onceFlag)
    | _ => throw .wrong

end Command

inductive CommandEntry where
  | single (form : CommandForm)
  | group (forms : List (String × CommandForm))

namespace CommandEntry

open Command

def all : List (String × CommandEntry) :=
  [("validate", .single validateForm), ("compile", .single compileForm),
    ("flow", .group [("create", createFlowForm)]),
    ("version", .group [("create", createVersionForm), ("list", listVersionsForm)]),
    ("run", .group
      [("start", startRunForm), ("status", showRunForm), ("callback", reportForm),
        ("resume", resumeForm), ("retry", retryForm), ("reconcile", reconcileForm),
        ("timeline", timelineForm)]),
    ("watch", .single watchForm)]

def versionFlag : CommandOption := .flag ["--version"]

def versionText : String := "main, version 0.1.0\n"

def question? (a : Arguments) : Option String :=
  a.options.findSome? fun (key, _) =>
    if key = CommandOption.help.key then some ""
    else if key = versionFlag.key then some versionText
    else none

def arguments (options : List CommandOption) (mixed : Bool) (line : List String) :
    Except Misuse Arguments :=
  match Arguments.read options mixed line with
  | none => .error .wrong
  | some a => (question? a).elim (.ok a) fun answer => .error (.question answer)

def choose {α : Type} (options : List CommandOption) (names : List (String × α)) :
    List String → Except Misuse (α × List String)
  | [] => .error .wrong
  | name :: rest =>
    match names.lookup name with
    | some a => .ok (a, rest)
    | none => arguments options false (name :: rest) >>= fun _ => .error .wrong

def readForm (form : CommandForm) (fs : Files) (line : List String) : Except Misuse Command := do
  form.read fs (← arguments form.options true line)

def read (e : CommandEntry) (fs : Files) (line : List String) : Except Misuse Command :=
  match e with
  | .single form => readForm form fs line
  | .group forms => do
    let a ← arguments [] false line
    let (form, rest) ← choose [] forms a.words
    readForm form fs rest

end CommandEntry

structure Launch where
  settingsFile : Option String
  entry : CommandEntry
  rest : List String

namespace Launch

def configOption : CommandOption := .value ["--config"]

def verboseFlag : CommandOption := .flag ["-v", "--verbose"]

def options : List CommandOption :=
  [configOption, verboseFlag, CommandEntry.versionFlag]

def read (fs : Files) (line : List String) : Except Misuse Launch := do
  let a ← CommandEntry.arguments options false line
  let settingsFile ←
    match a.get? configOption with
    | none => pure none
    | some path => some <$> Command.existing fs path
  let (entry, rest) ← CommandEntry.choose options CommandEntry.all a.words
  return ⟨settingsFile, entry, rest⟩

end Launch

end Workflow
