import Workflow.Engine.Message
import Workflow.Json.Display

/-!
Starting nodes. A node is claimed before anything else happens to it, so that it starts once however
often it is fired.
-/

namespace Workflow.Engine

def fail (runId key error : String) : Action Outcome := do
  let _ ← World.update runId [(key, .fail error)]
  return .walk key

def startWorker (settings : Settings) (r : Run) (n : PlanNode) (key : String) (input : Json) :
    Action Outcome :=
  return .send ⟨r.id, key, n.workerType, n.config, input, settings.callbackUrl r.id key⟩

def startForm (r : Run) (key : String) (input : Json) : Action Outcome := do
  let _ ← World.update r.id [(key, .finish .waitingForUser input)]
  return .nothing

def arrayPath (n : PlanNode) : Json :=
  let first := (Keyed.find? n.config "array_path").getD .null
  if first.isFalsy then (Keyed.find? n.config "arrayPath").getD .null else first

def fanOutTargets (p : Plan) : List String → Except Failure (List String)
  | [] => .ok []
  | child :: rest =>
    match p.node? child with
    | none => .error (.noEntry child)
    | some n => do
      let others ← fanOutTargets p rest
      return if n.kind = .collector then others else child :: others

def fanOut (p : Plan) (r : Run) (n : PlanNode) (key : String) (items : List Json) :
    Action Outcome := do
  let targets ← World.lift (fanOutTargets p (p.children n.id))
  let completion := [(key, NodeUpdate.finish .completed (.arr items))]
  let _ ←
    if targets.isEmpty then World.update r.id completion
    else
      World.register r.id
        (targets.eraseDups.map fun t => (t, items.map NodeState.pending)) completion
  return .walk key

def startSplitter (p : Plan) (r : Run) (n : PlanNode) (key : String) (input : Json) :
    Action Outcome := do
  match arrayPath n with
  | .str "" => fail r.id key s!"Splitter '{key}' has no config.array_path"
  | .str path =>
    match ← World.lift (Failure.ofPath (input.resolveOutput path)) with
    | .null => fail r.id key s!"Array path '{path}' not found in splitter input"
    | .arr items => fanOut p r n key items
    | other => fail r.id key s!"Value at '{path}' is {other.kindName}, expected an array"
  | other =>
    if other.isFalsy then fail r.id key s!"Splitter '{key}' has no config.array_path"
    else throw (.pathNotText other.kindName)

inductive CollectMode where
  | array
  | keyed
  | first
deriving DecidableEq, Repr

instance : Named CollectMode where
  all := [.array, .keyed, .first]
  name
    | .array => "array"
    | .keyed => "keyed"
    | .first => "first"

def collectMode (n : PlanNode) : Except Json CollectMode :=
  match Keyed.find? n.config "mode" with
  | none => .ok .array
  | some (.str s) => (Named.ofName? s).elim (.error (.str s)) .ok
  | some other => .error other

/-- The branches of a collector: the instances of a source that was fanned out, or the source. -/
def branches (r : Run) : List String → Except Failure (List (String × Option NodeState))
  | [] => .ok []
  | source :: rest => do
    let here ←
      if r.hasInstances source then
        (instanceTexts r source).mapM fun key => do
          return (key, some (← Failure.ofMissing (r.stateAt key)))
      else .ok [(source, r.state? source)]
    return here ++ (← branches r rest)

def branchOutputs (bs : List (String × Option NodeState)) : List (String × Json) :=
  bs.filterMap fun b =>
    match b.2 with
    | some s => if s.status = .completed then some (b.1, s.output) else none
    | none => none

def collect (mode : CollectMode) (outputs : List (String × Json)) : Json :=
  match mode with
  | .array => .arr (outputs.map Prod.snd)
  | .keyed => .obj (Keyed.ofPairs outputs)
  | .first => (outputs.head?.map Prod.snd).getD .null

def startCollector (p : Plan) (r : Run) (n : PlanNode) (key : String) : Action Outcome := do
  match collectMode n with
  | .error mode =>
    fail r.id key
      s!"Unknown collector mode '{mode.display}' (expected one of ('array', 'keyed', 'first'))"
  | .ok mode =>
    let bs ← World.lift (branches r (p.parents n.id))
    let outputs := branchOutputs bs
    if outputs.isEmpty && !bs.isEmpty then
      fail r.id key s!"All {bs.length} upstream branch(es) failed"
    else
      let _ ← World.update r.id [(key, .finish .completed (collect mode outputs))]
      return .walk key

/-- Claims a key that has the given status, and does what its node's kind asks for. A key with
another status is left alone. -/
def start (settings : Settings) (p : Plan) (r : Run) (n : PlanNode) (key : String) (input : Json)
    (source : Status) : Action Outcome := do
  if n.kind.isPresentation then throw (.notExecutable n.kind)
  match ← World.claim r.id key [source] .running with
  | none => return .nothing
  | some claimed =>
    match n.kind with
    | .worker => startWorker settings claimed n key input
    | .ux => startForm claimed key input
    | .splitter => startSplitter p claimed n key input
    | _ => startCollector p claimed n key

/-- Runs an operation. An illegal move means that someone else was faster, and is no failure. -/
def unlessIllegal {α : Type} (x : Action α) (otherwise : α) : Action α :=
  tryCatch x fun f =>
    match f with
    | .illegalMove _ _ => return otherwise
    | f => throw f

def runHandler (settings : Settings) (p : Plan) (r : Run) (n : PlanNode) (key : String)
    (input : Json) (source : Status) : Action Outcome :=
  tryCatch (unlessIllegal (start settings p r n key input source) .nothing) fun f =>
    unlessIllegal (fail r.id key f.text) .nothing

end Workflow.Engine
