import ComponentSupport.Document.Dialects
import ComponentSupport.Snapshot

/-!
# Snapshots in documents

The tree of a snapshot: lists without items are left out. Reading takes the defaults for what is
missing, refuses fields that it does not know, and keeps the last entry of a type that is given
twice.
-/

namespace ComponentSupport

namespace Convention

/-- The conventions by their names in documents. -/
def choices : List (String × Convention) :=
  [(dot.label, dot), (doubleColon.label, doubleColon)]

/-- Reads a convention. -/
def ofTree (d : Dialect) (t : Tree) : Except DecodeError Convention := d.choice choices t

end Convention

namespace PackageScope

/-- The scopes by their names in documents. -/
def choices : List (String × PackageScope) :=
  [(exact.label, exact), (subpackages.label, subpackages)]

/-- Reads a scope. -/
def ofTree (d : Dialect) (t : Tree) : Except DecodeError PackageScope := d.choice choices t

end PackageScope

/-- A field that is left out when its list has no items. -/
def Tree.textsField (name : String) (values : List String) : List (String × Tree) :=
  if values.isEmpty then [] else [(name, .texts values)]

namespace SnapshotEntry

/-- The tree of what is said about one type. -/
def toTree (e : SnapshotEntry) : Tree :=
  .object (Tree.textsField "references" e.references ++
    Tree.textsField "annotations" e.annotations)

/-- Reads what is said about one type. -/
def ofTree (d : Dialect) (t : Tree) : Except DecodeError SnapshotEntry := do
  let fields ← d.fields ["references", "annotations"] true t
  return {
    references := ← Dialect.optional fields "references" [] d.texts
    annotations := ← Dialect.optional fields "annotations" [] d.texts }

end SnapshotEntry

namespace Snapshot

/-- The tree of a snapshot. -/
def toTree (s : Snapshot) : Tree :=
  .object [("convention", .text s.convention.label),
    ("types", .object (s.types.toList.map fun (name, entry) => (name, entry.toTree)))]

/-- Reads the entries of a snapshot. -/
def typesOfTree (d : Dialect) : Tree → Except DecodeError (NameMap SnapshotEntry)
  | .record fields => do
    let entries ← fields.mapM fun (key, value) =>
      return (← d.text key, ← SnapshotEntry.ofTree d value)
    return .ofList entries
  | _ => .error (.unexpected "a map")

/-- Reads a snapshot. -/
def ofTree (d : Dialect) (t : Tree) : Except DecodeError Snapshot := do
  let fields ← d.fields ["convention", "types"] true t
  return {
    convention := ← Dialect.optional fields "convention" .dot (Convention.ofTree d)
    types := ← Dialect.optional fields "types" ∅ (typesOfTree d) }

end Snapshot

end ComponentSupport
