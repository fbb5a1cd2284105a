/-!
Ordered mappings: association lists in the order in which their keys were first written. Writing a
key that is present keeps its place, writing a new one appends it.
-/

namespace Workflow

abbrev Keyed (α : Type) := List (String × α)

namespace Keyed

variable {α β : Type}

def find? : Keyed α → String → Option α
  | [], _ => none
  | (k', v) :: rest, k => if k' = k then some v else find? rest k

def has (m : Keyed α) (k : String) : Bool := (find? m k).isSome

def keys (m : Keyed α) : List String := m.map Prod.fst

def values (m : Keyed α) : List α := m.map Prod.snd

def set : Keyed α → String → α → Keyed α
  | [], k, v => [(k, v)]
  | (k', v') :: rest, k, v => if k' = k then (k, v) :: rest else (k', v') :: set rest k v

def merge (m n : Keyed α) : Keyed α := n.foldl (fun m e => set m e.1 e.2) m

/-- A mapping from pairs in which a key may come twice: the last value wins, at the first place. -/
def ofPairs (pairs : List (String × α)) : Keyed α := merge [] pairs

def mapValues (f : α → β) (m : Keyed α) : Keyed β := m.map fun e => (e.1, f e.2)

def without (m : Keyed α) (names : List String) : Keyed α := m.filter fun e => !names.contains e.1

@[simp] theorem find?_nil (k : String) : find? ([] : Keyed α) k = none := rfl

theorem find?_set (m : Keyed α) (k k' : String) (v : α) :
    find? (set m k v) k' = if k = k' then some v else find? m k' := by
  induction m with
  | nil => rfl
  | cons e rest ih =>
    obtain ⟨j, w⟩ := e
    by_cases hj : j = k
    · by_cases hk : k = k' <;> simp [set, find?, hj, hk]
    · by_cases hk : k = k'
      · subst hk
        simp [set, find?, hj, ih]
      · simp [set, find?, hj, hk, ih]

theorem keys_set (m : Keyed α) (k : String) (v : α) :
    keys (set m k v) = if k ∈ keys m then keys m else keys m ++ [k] := by
  induction m with
  | nil => rfl
  | cons e rest ih =>
    obtain ⟨j, w⟩ := e
    by_cases hj : j = k
    · simp [set, keys, hj]
    · simp only [keys] at ih
      by_cases hm : k ∈ rest.map Prod.fst <;> simp_all [set, keys, eq_comm]

end Keyed

end Workflow
