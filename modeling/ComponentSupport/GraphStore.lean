/-!
# Directed graphs

A directed graph holds a name at each of its nodes, and has at most one edge from a node to a node.
Nodes are known by numbers that the graph gives out.

`GraphStore` is what is asked of a kind of graphs, and `LawfulGraphStore` what the answers mean: a
new node gets a number that no node has, and an edge that is there is not added again. `Arena` is
the kind in use. It lists the names of its nodes and the ends of its edges, and the number of a node
is its place in the list of names.
-/

namespace ComponentSupport

/-- The operations of a kind of directed graphs. -/
class GraphStore (G : Type) where
  /-- The graph without nodes. -/
  empty : G
  /-- Adds a node with a name, and gives out its number. -/
  addNode : G → String → Nat × G
  /-- Adds an edge between two nodes, unless there is one. -/
  updateEdge : G → Nat → Nat → G
  /-- The name at a node, if there is a node of that number. -/
  name? : G → Nat → Option String
  /-- The number of nodes. -/
  nodeCount : G → Nat
  /-- The nodes at the other ends of the edges from a node, in any order. -/
  successors : G → Nat → List Nat
  /-- The ends of each edge, the edge added first at the head. -/
  edges : G → List (Nat × Nat)
  /-- The number of edges. -/
  edgeCount : G → Nat

open GraphStore in
/-- A kind of directed graphs whose operations do what they are for. -/
class LawfulGraphStore (G : Type) [GraphStore G] : Prop where
  name?_empty (n : Nat) : name? (empty : G) n = none
  nodeCount_empty : nodeCount (empty : G) = 0
  edges_empty : edges (empty : G) = []
  /-- The number of a new node is fresh. -/
  name?_fresh (g : G) (name : String) : name? g (addNode g name).1 = none
  name?_addNode (g : G) (name : String) (n : Nat) :
    name? (addNode g name).2 n = if n = (addNode g name).1 then some name else name? g n
  nodeCount_addNode (g : G) (name : String) : nodeCount (addNode g name).2 = nodeCount g + 1
  edges_addNode (g : G) (name : String) : edges (addNode g name).2 = edges g
  name?_updateEdge {g : G} {a b : Nat} (ha : (name? g a).isSome) (hb : (name? g b).isSome)
    (n : Nat) : name? (updateEdge g a b) n = name? g n
  nodeCount_updateEdge {g : G} {a b : Nat} (ha : (name? g a).isSome)
    (hb : (name? g b).isSome) : nodeCount (updateEdge g a b) = nodeCount g
  /-- An edge between two nodes is added only when they have none. -/
  edges_updateEdge {g : G} {a b : Nat} (ha : (name? g a).isSome) (hb : (name? g b).isSome) :
    edges (updateEdge g a b) = if (a, b) ∈ edges g then edges g else edges g ++ [(a, b)]
  mem_successors (g : G) (a b : Nat) : b ∈ successors g a ↔ (a, b) ∈ edges g
  edgeCount_eq (g : G) : edgeCount g = (edges g).length

/-- A directed graph as two lists that only grow. -/
structure Arena where
  /-- The names at the nodes; a node's number is its place. -/
  names : Array String := #[]
  /-- The ends of the edges. -/
  edges : Array (Nat × Nat) := #[]
  deriving DecidableEq, Repr

namespace Arena

/-- Puts a node behind the others. -/
def addNode (g : Arena) (name : String) : Nat × Arena :=
  (g.names.size, { g with names := g.names.push name })

/-- Puts an edge behind the others, unless it is among them. -/
def updateEdge (g : Arena) (a b : Nat) : Arena :=
  if (a, b) ∈ g.edges.toList then g else { g with edges := g.edges.push (a, b) }

/-- The nodes that edges from a node lead to. -/
def successors (g : Arena) (n : Nat) : List Nat :=
  g.edges.toList.filterMap fun (a, b) => if a = n then some b else none

instance : GraphStore Arena where
  empty := {}
  addNode := addNode
  updateEdge := updateEdge
  name? g n := g.names[n]?
  nodeCount g := g.names.size
  successors := successors
  edges g := g.edges.toList
  edgeCount g := g.edges.size

theorem names_updateEdge (g : Arena) (a b : Nat) : (g.updateEdge a b).names = g.names := by
  unfold updateEdge
  split <;> rfl

theorem toList_edges_updateEdge (g : Arena) (a b : Nat) :
    (g.updateEdge a b).edges.toList =
      if (a, b) ∈ g.edges.toList then g.edges.toList else g.edges.toList ++ [(a, b)] := by
  unfold updateEdge
  split
  · rfl
  · exact Array.toList_push

theorem mem_successors_iff (g : Arena) (a b : Nat) :
    b ∈ g.successors a ↔ (a, b) ∈ g.edges.toList := by
  unfold successors
  rw [List.mem_filterMap]
  constructor
  · rintro ⟨⟨a', b'⟩, hmem, heq⟩
    dsimp only at heq
    split at heq
    · next ha => cases heq; rwa [← ha]
    · cases heq
  · intro hmem
    exact ⟨(a, b), hmem, if_pos rfl⟩

instance : LawfulGraphStore Arena where
  name?_empty _ := rfl
  nodeCount_empty := rfl
  edges_empty := rfl
  name?_fresh g _ := Array.getElem?_size
  name?_addNode g name n := Array.getElem?_push
  nodeCount_addNode g name := Array.size_push name
  edges_addNode _ _ := rfl
  name?_updateEdge _ _ n := by
    show (updateEdge _ _ _).names[n]? = _
    rw [names_updateEdge]
    rfl
  nodeCount_updateEdge _ _ := congrArg Array.size (names_updateEdge _ _ _)
  edges_updateEdge _ _ := toList_edges_updateEdge _ _ _
  mem_successors := mem_successors_iff
  edgeCount_eq _ := rfl

end Arena

end ComponentSupport
