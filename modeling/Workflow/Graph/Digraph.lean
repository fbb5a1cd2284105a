/-!
Finite directed graphs over node names: reachable nodes, topological generations and longest paths.
-/

namespace Workflow

theorem fewer_unseen {n : String} {unseen : List String} (h : n ∈ unseen) :
    (unseen.erase n).length < unseen.length :=
  List.length_erase_of_mem h ▸ Nat.sub_one_lt_of_lt (List.length_pos_of_mem h)

structure Digraph where
  nodes : List String
  edges : List (String × String)
deriving DecidableEq, Repr

namespace Digraph

def ofEdges (nodes : List String) (edges : List (String × String)) : Digraph where
  nodes := (nodes ++ edges.flatMap fun e => [e.1, e.2]).eraseDups
  edges := edges.eraseDups

def successors (g : Digraph) (n : String) : List String :=
  (g.edges.filter fun e => e.1 = n).map Prod.snd

def predecessors (g : Digraph) (n : String) : List String :=
  (g.edges.filter fun e => e.2 = n).map Prod.fst

def visit (next : String → List String) (unseen : List String) : List String → List String
  | [] => []
  | n :: rest =>
    if _h : n ∈ unseen then n :: visit next (unseen.erase n) (next n ++ rest)
    else visit next unseen rest
termination_by waiting => (unseen.length, waiting.length)
decreasing_by
  · exact Prod.Lex.left _ _ (fewer_unseen _h)
  · exact Prod.Lex.right _ (Nat.lt_succ_self _)

def reachable (g : Digraph) (n : String) : List String :=
  visit g.successors g.nodes (g.successors n)

/-- The successors of a generation's nodes whose predecessors are all done, each at the last of its
predecessors. -/
def ripe (g : Digraph) : List String → List String → List String
  | _, [] => []
  | done, n :: rest =>
    (g.successors n).filter (fun c => (g.predecessors c).all fun p => (n :: done).contains p) ++
      ripe g (n :: done) rest

def generationsFrom (g : Digraph) : Nat → List String → List String → List (List String)
  | 0, _, _ => []
  | fuel + 1, done, generation =>
    if generation.isEmpty then []
    else
      generation :: generationsFrom g fuel (generation.reverse ++ done) (g.ripe done generation)

def sources (g : Digraph) : List String := g.nodes.filter fun n => (g.predecessors n).isEmpty

def generations? (g : Digraph) : Option (List (List String)) :=
  let layers := g.generationsFrom g.nodes.length [] g.sources
  if layers.flatten.length = g.nodes.length then some layers else none

def longest (paths : List (List String)) : List String :=
  paths.foldl (fun best path => if best.length < path.length then path else best) []

/-- The path to each node, with the node first, that goes on from the longest of its predecessors'
paths. -/
def pathsTo (g : Digraph) (order : List String) : List (String × List String) :=
  order.foldl (fun paths n =>
    paths ++ [(n, n :: longest ((g.predecessors n).filterMap fun p => paths.lookup p))]) []

def longestPath? (g : Digraph) : Option (List String) :=
  g.generations?.map fun layers => (longest ((g.pathsTo layers.flatten).map Prod.snd)).reverse

end Digraph

end Workflow
