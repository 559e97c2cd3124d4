import ComponentSupport.Strategy.Basic
import ComponentSupport.Traversal

/-!
# What strategies find

The first part asks a type graph: which types the primary type refers to (`TypeGraph.referred`),
which lie in its package (`TypeGraph.members`), and which do both (`TypeGraph.referredMembers`). The
second part is `Strategy.find`, the answer of a strategy to a view of a component. A strategy that
has no type graph answers nothing; of several failures the first one met, from left to right and
outside in, is the answer.
-/

namespace ComponentSupport

namespace TypeGraph

/-- The types reached along references from the frontier of direct references. -/
def reachable (g : TypeGraph) (start : String) (limit : Nat) : Except AnalysisError NameSet :=
  match (Traversal.start (g.referencedTypes start).toList).run g.referencedTypes limit with
  | some t => .ok t.visited
  | none => .error (.traversalLimitExceeded start limit)

/-- The types that the primary type of a component refers to, and that may support it. Siblings are
left out at the end: what lies behind them is still found. -/
def referred (g : TypeGraph) (reach : Reach) (v : ComponentView) : Except AnalysisError NameSet :=
  if reach.indirect then (g.reachable v.primaryType reach.limit).map v.retainSupporting
  else .ok (v.retainSupporting (g.referencedTypes v.primaryType))

/-- The package of the primary type of a component. -/
def packageOfView (g : TypeGraph) (v : ComponentView) : Except AnalysisError String :=
  (g.packageOf v.primaryType).mapError .ofMalformedName

/-- The types in the package of a component that may support it. -/
def members (g : TypeGraph) (scope : PackageScope) (v : ComponentView) :
    Except AnalysisError NameSet :=
  (g.packageOfView v).map fun package =>
    v.retainSupporting (g.allTypes.filter (scope.admits g.convention package))

/-- The types in the package of a component that its primary type refers to, and that may support
it. A malformed primary type is noticed before any reference is followed. -/
def referredMembers (g : TypeGraph) (reach : Reach) (scope : PackageScope) (v : ComponentView) :
    Except AnalysisError NameSet := do
  let package ← g.packageOfView v
  let types ← g.referred reach v
  return types.filter (scope.admits g.convention package)

end TypeGraph

namespace Strategy

/-- A type graph that a strategy needs. -/
def require (name : String) : Option TypeGraph → Except AnalysisError TypeGraph
  | some g => .ok g
  | none => .error (.notConfigured name)

mutual

/-- The supporting types that a strategy finds for a component. -/
def find (v : ComponentView) : Strategy → Except AnalysisError NameSet
  | s@(referenced reach graph) => do (← require s.name graph).referred reach v
  | s@(samePackage reach scope graph) => do
    (← require s.name graph).referredMembers reach scope v
  | s@(packageMembers scope graph) => do (← require s.name graph).members scope v
  | s@(matching inner matcher) => do
    let g ← require s.name inner.graph?
    let types ← inner.find v
    return types.filter fun type => matcher.accepts g type
  | s@(explicit none included excluded graph) => do
    let _ ← require s.name graph
    return v.retainSupporting (included \ excluded)
  | s@(explicit (some inner) included excluded graph) => do
    let _ ← require s.name graph
    let types ← inner.find v
    return v.retainSupporting ((types ∪ included) \ excluded)
  | s@(composite children graph) => do
    let _ ← require s.name graph
    findAll v children
  | external _ answer graph => answer graph v

/-- What any strategy of a list finds; the first failure is that of the list. -/
def findAll (v : ComponentView) : List Strategy → Except AnalysisError NameSet
  | [] => .ok ∅
  | s :: rest => do
    let types ← s.find v
    let more ← findAll v rest
    return types ∪ more

end

end Strategy

end ComponentSupport
