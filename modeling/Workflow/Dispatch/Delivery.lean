import Workflow.Address.Reader
import Workflow.Catalogue.Basic
import Workflow.Dispatch.Request
import Workflow.Failure
import Workflow.Text.Split

/-!
Handing requests to workers: where a request is posted, and whether the worker accepts it. The
answer says only that; results come later.
-/

namespace Workflow

inductive Response where
  | answered (status : Int) (body : String)
  | timedOut
  | unreachable (reason : String)
deriving DecidableEq, Repr

inductive Refusal where
  | noAddress (nodeKey : String) (workerType : Option String)
  | rejected (address : String) (status : Int) (body : String)
  | timedOut (address limit : String)
  | unreachable (address reason : String)
deriving DecidableEq, Repr

namespace Refusal

def message : Refusal → String
  | .noAddress nodeKey workerType =>
    let suffix :=
      match workerType with
      | none | some "" => ""
      | some type => s!" (type {type})"
    s!"No webhook_url or registry endpoint for worker node '{nodeKey}'" ++ suffix
  | .rejected address status body =>
    s!"Worker at {address} returned HTTP {status}: {Text.firstOf 200 body}"
  | .timedOut address limit => s!"Worker at {address} timed out after {limit}s"
  | .unreachable address reason => s!"Worker at {address} unreachable: {reason}"

end Refusal

inductive Delivery.Result where
  | accepted
  | refused (refusal : Refusal)
  | failed (mishap : Mishap)
deriving DecidableEq, Repr

structure Delivery where
  target? : Option String
  result : Delivery.Result
deriving DecidableEq, Repr

structure Sending where
  request : Request
  delivery : Delivery
deriving DecidableEq, Repr

abbrev Dispatcher := List Sending → Request → Delivery

namespace Request

def address (r : Request) (c : Catalogue) : Except Refusal Json :=
  let own := (Keyed.find? r.config "webhook_url").getD .null
  if !own.isFalsy then .ok own
  else
    match r.workerType with
    | none | some "" => .error (.noAddress r.nodeKey r.workerType)
    | some type =>
      let endpoint := ((c.get? type).map (·.endpoint)).getD .null
      if endpoint.isFalsy then .error (.noAddress r.nodeKey r.workerType) else .ok endpoint

end Request

namespace Response

def result (address limit : String) : Response → Delivery.Result
  | .answered status body =>
    if 200 ≤ status ∧ status < 300 then .accepted else .refused (.rejected address status body)
  | .timedOut => .refused (.timedOut address limit)
  | .unreachable reason => .refused (.unreachable address reason)

end Response

namespace Catalogue

/-- Posts a request to an address. Without a host it is posted all the same, but an answer is of no
use. -/
def post (address limit : String) (response : Response) : Delivery :=
  match do let a ← Address.ofText address; return (a, ← a.target) with
  | .error fault => ⟨none, .failed (.badAddress fault)⟩
  | .ok (a, target) =>
    match response with
    | .answered status body =>
      if a.isComplete then ⟨some target, (Response.answered status body).result address limit⟩
      else ⟨some target, .failed (.noHost target)⟩
    | response => ⟨some target, response.result address limit⟩

def deliver (c : Catalogue) (limit : String) (response : Response) (r : Request) : Delivery :=
  match r.address c with
  | .error refusal => ⟨none, .refused refusal⟩
  | .ok (.str address) => post address limit response
  | .ok _ => ⟨none, .failed .addressNotText⟩

end Catalogue

end Workflow
