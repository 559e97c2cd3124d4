import ComponentSupport.NameSet

/-!
# Traversing references

A traversal starts from a list of names and follows references until nothing new turns up. It keeps
a queue of names that wait, in which a name may wait more than once, and the set of names it has
visited; a name is visited, and asked for its references, the first time it leaves the queue.

A limit caps the visited names. A traversal that meets more gives no answer at all, rather than a
part of one. The limit is also why it ends: each step either visits a name that was not visited
before, or makes the queue shorter.
-/

namespace ComponentSupport

/-- A traversal on its way. -/
structure Traversal where
  /-- The names that wait, in the order in which they will be looked at. -/
  queue : List String
  /-- The names that were visited. -/
  visited : NameSet := ∅
  /-- The names that were asked for their references, the last one first. -/
  asked : List String := []
  /-- How many names have left the queue. -/
  taken : Nat := 0

namespace Traversal

/-- The traversal that is about to look at the given names. -/
def start (frontier : List String) : Traversal := { queue := frontier }

/-- The state after a name that was visited before has left the queue. -/
def skip (t : Traversal) (rest : List String) : Traversal :=
  { t with queue := rest, taken := t.taken + 1 }

/-- The state after a name has left the queue for the first time: it is asked for its references,
and those not visited join the end of the queue. -/
def visit (successors : String → NameSet) (t : Traversal) (name : String) (rest : List String) :
    Traversal :=
  { queue := rest ++ (successors name).toList.filter fun s => decide (s ∉ t.visited)
    visited := t.visited.insert name
    asked := name :: t.asked
    taken := t.taken + 1 }

/-- Runs a traversal to its end: the final state, or nothing when more names than the limit were
visited. -/
def run (successors : String → NameSet) (limit : Nat) (t : Traversal) : Option Traversal :=
  match _hq : t.queue with
  | [] => some t
  | name :: rest =>
    if name ∈ t.visited then run successors limit (t.skip rest)
    else if limit < (t.visit successors name rest).visited.size then none
    else run successors limit (t.visit successors name rest)
termination_by (limit - t.visited.size, t.queue.length)
decreasing_by
  · simp [skip, Prod.lex_def, _hq]
  · next hnew hlimit =>
    have hsize : (t.visit successors name rest).visited.size = t.visited.size + 1 :=
      NameSet.size_insert hnew
    rw [Prod.lex_def]
    left
    show limit - (t.visit successors name rest).visited.size < limit - t.visited.size
    omega

end Traversal

end ComponentSupport
