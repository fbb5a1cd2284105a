/-!
Closed sets of words: finite types whose values are written as distinct names.
-/

namespace Workflow

class Named (α : Type) where
  all : List α
  name : α → String

namespace Named

variable {α : Type} [Named α]

def ofName? (s : String) : Option α := all.find? fun a => name a = s

def names (α : Type) [Named α] : List String := (all : List α).map name

end Named

end Workflow
