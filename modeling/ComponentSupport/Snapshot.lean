import ComponentSupport.NameMap
import ComponentSupport.TypeGraph

/-!
# Snapshots

A snapshot is a type graph as a document holds it: for each type the list of its references and the
list of its annotations, in any order and with repetitions. `Snapshot.toGraph` records what a
snapshot says. `Snapshot.ofGraph` describes a graph: it starts from an empty entry for every known
type, goes through the references and the table of annotations, and puts each into the entry of its
type; at the end it sorts the references.
-/

namespace ComponentSupport

/-- What a snapshot says about one type. -/
structure SnapshotEntry where
  references : List String := []
  annotations : List String := []
  deriving DecidableEq, Repr

namespace SnapshotEntry

/-- The entry with one more reference, behind the others. -/
def addReference (e : SnapshotEntry) (target : String) : SnapshotEntry :=
  { e with references := e.references ++ [target] }

/-- The entry with more annotations, behind the others. -/
def addAnnotations (e : SnapshotEntry) (annotations : List String) : SnapshotEntry :=
  { e with annotations := e.annotations ++ annotations }

/-- The entry with its references in increasing order. -/
def sortReferences (e : SnapshotEntry) : SnapshotEntry :=
  { e with references := e.references.mergeSort }

end SnapshotEntry

/-- A type graph as plain data. -/
structure Snapshot where
  convention : Convention := .dot
  types : NameMap SnapshotEntry := ∅

instance : Inhabited Snapshot := ⟨{}⟩

namespace Snapshot

/-- What a snapshot says, fact by fact, in the order of the names. -/
def facts (s : Snapshot) : List Fact :=
  s.types.toList.flatMap fun (name, entry) =>
    Fact.references name entry.references :: entry.annotations.map (Fact.annotated name)

/-- The type graph that a snapshot describes, kept in a graph of any kind. -/
def toGraphOn (G : Type) [GraphStore G] (s : Snapshot) : TypeGraphOn G :=
  .ofFacts s.convention s.facts

/-- The type graph that a snapshot describes. -/
def toGraph (s : Snapshot) : TypeGraph :=
  s.toGraphOn Arena

/-- An empty entry for each of several types. -/
def blank (names : NameSet) : NameMap SnapshotEntry :=
  .ofList (names.toList.map fun name => (name, {}))

/-- Puts references into the entries of their sources. -/
def addReferences (references : List (String × String)) (types : NameMap SnapshotEntry) :
    NameMap SnapshotEntry :=
  references.foldl (fun types reference => types.modify reference.1 (·.addReference reference.2))
    types

/-- Puts the annotations of types into their entries. -/
def addAnnotations (annotations : List (String × NameSet)) (types : NameMap SnapshotEntry) :
    NameMap SnapshotEntry :=
  annotations.foldl (fun types entry => types.modify entry.1 (·.addAnnotations entry.2.toList))
    types

/-- The description of a type graph. -/
def ofGraph {G : Type} [GraphStore G] (g : TypeGraphOn G) : Snapshot :=
  { convention := g.convention
    types := (addAnnotations g.annotations.toList
      (addReferences g.references (blank g.allTypes))).map (·.sortReferences) }

end Snapshot

end ComponentSupport
