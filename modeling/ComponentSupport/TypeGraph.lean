import ComponentSupport.GraphStore
import ComponentSupport.NameSet
import ComponentSupport.TypeName
import Std.Data.TreeMap

/-!
# Type graphs

A type graph knows the types of a code base, which of them refer to which, and the annotations each
carries. It is built step by step (`TypeGraphOn.record`), in any order: naming a type twice,
repeating a reference or an annotation, and referring to a type that is described later all mean
what they say.

The types are the nodes of a directed graph and the references its edges. Beside the graph stands an
index, which finds the node of a type by its name, and a table of the annotations. `TypeGraphOn`
does not depend on how the directed graph is kept; `TypeGraph` keeps it in an `Arena`.
-/

namespace ComponentSupport

/-- The types of a code base with their references and annotations, kept in a directed graph. -/
structure TypeGraphOn (G : Type) where
  /-- How its type names are written. -/
  convention : Convention := .dot
  /-- One node for each known type, one edge for each reference. -/
  graph : G
  /-- The node of each known type. -/
  index : Std.TreeMap String Nat := ∅
  /-- The annotations of the types that carry any. -/
  annotations : Std.TreeMap String NameSet := ∅

/-- The types of a code base with their references and annotations. -/
abbrev TypeGraph := TypeGraphOn Arena

/-- One fact about a code base. -/
inductive Fact where
  /-- There is such a type. -/
  | type (name : String)
  /-- The first type refers to the second. -/
  | reference (source target : String)
  /-- A type refers to all of these, and to nothing if there are none. -/
  | references (source : String) (targets : List String)
  /-- A type carries an annotation. -/
  | annotated (type name : String)
  deriving DecidableEq, Repr

namespace TypeGraphOn

variable {G : Type} [GraphStore G]

/-- The graph without types. -/
def empty (convention : Convention) : TypeGraphOn G := { convention, graph := GraphStore.empty }

instance : Inhabited (TypeGraphOn G) := ⟨empty .dot⟩

/-! ### Recording facts -/

/-- Gives a type a new node. -/
def newNode (g : TypeGraphOn G) (name : String) : Nat × TypeGraphOn G :=
  let (n, graph) := GraphStore.addNode g.graph name
  (n, { g with graph, index := g.index.insert name n })

/-- The node of a type, a new one if the type was unknown. -/
def node (g : TypeGraphOn G) (name : String) : Nat × TypeGraphOn G :=
  match g.index[name]? with
  | some n => (n, g)
  | none => g.newNode name

/-- Makes a type known. -/
def addType (g : TypeGraphOn G) (name : String) : TypeGraphOn G :=
  (g.node name).2

/-- Records a reference between two types, given their nodes. -/
def link (g : TypeGraphOn G) (a b : Nat) : TypeGraphOn G :=
  { g with graph := GraphStore.updateEdge g.graph a b }

/-- Records a reference between two types, which thereby become known. A reference that is there
already keeps its place. -/
def addReference (g : TypeGraphOn G) (source target : String) : TypeGraphOn G :=
  let (a, g) := g.node source
  let (b, g) := g.node target
  g.link a b

/-- Records the references of a type to a list of types. -/
def addReferences (g : TypeGraphOn G) (source : String) (targets : List String) : TypeGraphOn G :=
  targets.foldl (fun g target => g.addReference source target) (g.addType source)

/-- Writes an annotation of a type into the table. -/
def annotate (g : TypeGraphOn G) (type name : String) : TypeGraphOn G :=
  { g with
    annotations := g.annotations.insert type ((g.annotations[type]?.getD ∅).insert name) }

/-- Adds an annotation to a type, which thereby becomes known. -/
def addAnnotation (g : TypeGraphOn G) (type name : String) : TypeGraphOn G :=
  (g.addType type).annotate type name

/-- Records one fact. -/
def record (g : TypeGraphOn G) : Fact → TypeGraphOn G
  | .type name => g.addType name
  | .reference source target => g.addReference source target
  | .references source targets => g.addReferences source targets
  | .annotated type name => g.addAnnotation type name

/-- The graph of a list of facts, recorded in order. -/
def ofFacts (convention : Convention) (facts : List Fact) : TypeGraphOn G :=
  facts.foldl record (empty convention)

/-! ### Questions -/

/-- Every known type. -/
def allTypes (g : TypeGraphOn G) : NameSet :=
  .ofList g.index.keys

/-- Whether a type is known. -/
def contains (g : TypeGraphOn G) (name : String) : Bool :=
  g.index.contains name

/-- The types that a type refers to; none if it is unknown. -/
def referencedTypes (g : TypeGraphOn G) (name : String) : NameSet :=
  match g.index[name]? with
  | some n => .ofList ((GraphStore.successors g.graph n).filterMap (GraphStore.name? g.graph))
  | none => ∅

/-- The annotations of a type. -/
def annotationsOf (g : TypeGraphOn G) (name : String) : NameSet :=
  g.annotations[name]?.getD ∅

/-- The number of known types. -/
def size (g : TypeGraphOn G) : Nat :=
  GraphStore.nodeCount g.graph

/-- No type is known. -/
def isEmpty (g : TypeGraphOn G) : Bool :=
  g.size == 0

/-- The types that an edge joins. -/
def ends? (g : TypeGraphOn G) (edge : Nat × Nat) : Option (String × String) :=
  match GraphStore.name? g.graph edge.1, GraphStore.name? g.graph edge.2 with
  | some source, some target => some (source, target)
  | _, _ => none

/-- Each reference once, in the order of first recording. -/
def references (g : TypeGraphOn G) : List (String × String) :=
  (GraphStore.edges g.graph).filterMap g.ends?

/-- The number of distinct references. -/
def referenceCount (g : TypeGraphOn G) : Nat :=
  GraphStore.edgeCount g.graph

/-- The package of a type name under the convention of the graph. -/
def packageOf (g : TypeGraphOn G) (name : String) : Except MalformedName String :=
  g.convention.packageOf name

end TypeGraphOn

/-- The graph of a list of facts, recorded in order. -/
def TypeGraph.ofFacts (convention : Convention) (facts : List Fact) : TypeGraph :=
  TypeGraphOn.ofFacts convention facts

end ComponentSupport
