import ComponentSupport.Analysis.Error
import ComponentSupport.Matcher
import ComponentSupport.View

/-!
# Strategies

A strategy finds supporting types. Some look at a type graph themselves: along references, in a
package, or along references within a package. The others work on what strategies below them find:
they filter it, correct it by two lists, or join several. A strategy is built first and given its
type graph afterwards, so every node of the tree says for itself whether it has one.

`Strategy.bind` gives a type graph to a strategy and to all below it. `Strategy.graph?` is the graph
that a strategy says it has; a filter has none of its own and speaks for what it filters.
-/

namespace ComponentSupport

/-- How far references are followed. -/
structure Reach where
  /-- Follow the references of referenced types too. -/
  indirect : Bool := true
  /-- The most types that may be visited on the way. -/
  limit : Nat := 100000
  deriving DecidableEq, Repr

/-- A way to find the supporting types of a component. -/
inductive Strategy where
  /-- The types that the primary type refers to. -/
  | referenced (reach : Reach) (graph : Option TypeGraph)
  /-- The types that the primary type refers to, as far as they lie in its package. -/
  | samePackage (reach : Reach) (scope : PackageScope) (graph : Option TypeGraph)
  /-- All types that lie in the package of the primary type. -/
  | packageMembers (scope : PackageScope) (graph : Option TypeGraph)
  /-- What another strategy finds, as far as it passes a test. -/
  | matching (inner : Strategy) (matcher : Matcher)
  /-- What another strategy finds, if there is one, with some types put in and some taken out. -/
  | explicit (inner : Option Strategy) (included excluded : NameSet) (graph : Option TypeGraph)
  /-- What any of several strategies finds. -/
  | composite (children : List Strategy) (graph : Option TypeGraph)
  /-- A strategy that is not of this library: its name, and its answer to a view. -/
  | external (name : String)
      (answer : Option TypeGraph → ComponentView → Except AnalysisError NameSet)
      (graph : Option TypeGraph)

namespace Strategy

/-- The name of a strategy in messages. -/
def name : Strategy → String
  | referenced .. => "ReferencedTypesSupportingTypesStrategy"
  | samePackage .. => "ReferencedTypesInSamePackageSupportingTypesStrategy"
  | packageMembers .exact _ => "AllTypesInPackageSupportingTypesStrategy"
  | packageMembers .subpackages _ => "AllTypesUnderPackageSupportingTypesStrategy"
  | matching .. => "MatchingTypesSupportingTypesStrategy"
  | explicit .. => "ExplicitTypesSupportingTypesStrategy"
  | composite .. => "CompositeSupportingTypesStrategy"
  | external name _ _ => name

/-- The type graph that a strategy says it has. -/
def graph? : Strategy → Option TypeGraph
  | referenced _ graph => graph
  | samePackage _ _ graph => graph
  | packageMembers _ graph => graph
  | matching inner _ => inner.graph?
  | explicit _ _ _ graph => graph
  | composite _ graph => graph
  | external _ _ graph => graph

mutual

/-- Gives a type graph to a strategy and to all strategies below it. -/
def bind (g : TypeGraph) : Strategy → Strategy
  | referenced reach _ => referenced reach (some g)
  | samePackage reach scope _ => samePackage reach scope (some g)
  | packageMembers scope _ => packageMembers scope (some g)
  | matching inner matcher => matching (inner.bind g) matcher
  | explicit none included excluded _ => explicit none included excluded (some g)
  | explicit (some inner) included excluded _ =>
    explicit (some (inner.bind g)) included excluded (some g)
  | composite children _ => composite (bindAll g children) (some g)
  | external name answer _ => external name answer (some g)

/-- Gives a type graph to each strategy of a list. -/
def bindAll (g : TypeGraph) : List Strategy → List Strategy
  | [] => []
  | s :: rest => s.bind g :: bindAll g rest

end

/-- A strategy as a child of a composite: it gets the type graph of its parent, if there is one. -/
def adopt (graph : Option TypeGraph) (child : Strategy) : Strategy :=
  match graph with
  | some g => child.bind g
  | none => child

/-- Adds a child to a composite; other strategies have no children to join. -/
def addChild (s child : Strategy) : Strategy :=
  match s with
  | composite children graph => composite (children ++ [child.adopt graph]) graph
  | other => other

/-- The children of a composite. -/
def children : Strategy → List Strategy
  | composite children _ => children
  | _ => []

end Strategy

end ComponentSupport
