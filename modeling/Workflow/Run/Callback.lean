import Workflow.Run.Basic

namespace Workflow

inductive WorkerResult where
  | completed
  | failed
deriving DecidableEq, Repr

instance : Named WorkerResult where
  all := [.completed, .failed]
  name
    | .completed => "completed"
    | .failed => "failed"

structure Callback where
  result : WorkerResult
  output : Json
  error : Option String
deriving DecidableEq, Repr

namespace Callback

def failure (error : String) : Callback := ⟨.failed, .null, some error⟩

def succeeded (c : Callback) : Bool := c.result == .completed

def errorText (c : Callback) : String :=
  match c.error with
  | none | some "" => "Worker reported failure"
  | some text => text

def read : Reader Callback :=
  Reader.record "WorkerCallback" fun ms =>
    mk <$> Reader.required ms (.plain "status") (Reader.literal WorkerResult)
      <*> Reader.optional ms (.plain "output") .null Reader.written
      <*> Reader.optional ms (.plain "error") none (Reader.nullable Reader.text)

def view (c : Callback) : View :=
  .record
    [View.field (.plain "status") (.named c.result),
      View.field (.plain "output") (.untyped c.output),
      View.field (.plain "error") (.text? c.error)]
    []

end Callback

end Workflow
