import Workflow.Document.Issue

/-!
Results that collect every issue instead of stopping at the first one.
-/

namespace Workflow

inductive Checked (α : Type) where
  | ok (value : α)
  | refused (issues : List Issue)

namespace Checked

variable {α β γ : Type}

def map (f : α → β) : Checked α → Checked β
  | .ok a => .ok (f a)
  | .refused is => .refused is

def both (f : α → β → γ) : Checked α → Checked β → Checked γ
  | .ok a, .ok b => .ok (f a b)
  | .ok _, .refused js => .refused js
  | .refused is, .ok _ => .refused is
  | .refused is, .refused js => .refused (is ++ js)

instance : Applicative Checked where
  pure := .ok
  map := map
  seq f a := both (fun f a => f a) f (a ())

def issue (cause : Issue.Cause) : Checked α := .refused [⟨[], cause⟩]

def under (step : Step) : Checked α → Checked α
  | .ok a => .ok a
  | .refused is => .refused (is.map (Issue.under step))

def andThen (x : Checked α) (f : α → Checked β) : Checked β :=
  match x with
  | .ok a => f a
  | .refused is => .refused is

def toExcept : Checked α → Except (List Issue) α
  | .ok a => .ok a
  | .refused is => .error is

end Checked

end Workflow
