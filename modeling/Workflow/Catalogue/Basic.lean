import Workflow.Graph.Schema

/-!
Worker types: their inputs and outputs, and where their work is sent.
-/

namespace Workflow

structure WorkerType where
  id : String
  name : String
  description : String
  input : Keyed InputSchema
  output : Keyed OutputSchema
  config : Keyed Json
deriving DecidableEq, Repr

namespace WorkerType

def endpoint (w : WorkerType) : Json := (Keyed.find? w.config "endpoint").getD .null

def read : Reader WorkerType :=
  Reader.record "WorkerDefinition" fun ms =>
    mk <$> Reader.required ms (.plain "id") Reader.text
      <*> Reader.optional ms (.plain "name") "" Reader.text
      <*> Reader.optional ms (.plain "description") "" Reader.text
      <*> Reader.optional ms (.plain "input") [] (Reader.mapping InputSchema.read)
      <*> Reader.optional ms (.plain "output") [] (Reader.mapping OutputSchema.read)
      <*> Reader.optional ms (.plain "config") [] Reader.object

def view (w : WorkerType) : View :=
  .record
    [View.field (.plain "id") (.text w.id),
      View.field (.plain "name") (.text w.name),
      View.field (.plain "description") (.text w.description),
      View.field (.plain "input") (.mappingOf InputSchema.view w.input),
      View.field (.plain "output") (.mappingOf OutputSchema.view w.output),
      View.field (.plain "config") (.object w.config)]
    []

end WorkerType

abbrev Catalogue := Keyed WorkerType

namespace Catalogue

def get? (c : Catalogue) (type : String) : Option WorkerType := Keyed.find? c type

def register (c : Catalogue) (w : WorkerType) : Catalogue := Keyed.set c w.id w

def types (c : Catalogue) : List String := (Keyed.keys c).mergeSort fun a b => a ≤ b

end Catalogue

end Workflow
