import ComponentSupport.Architecture.Model
import ComponentSupport.Document.Dialects
import ComponentSupport.Document.Shape

/-!
# Models in documents

The tree of a model: every field is written, a set as a list in order. Reading takes the defaults
for what is missing, and passes over fields that it does not know.
-/

namespace ComponentSupport

namespace Component

/-- The fields of a component in a document. -/
def fieldNames : List String :=
  ["name", "primary_type", "description", "technology", "supporting_types"]

/-- The form of a component in a document. -/
def shape : Shape := .record (fieldNames.zip [.text, .text, .text, .text, .list .text])

/-- The tree of a component. -/
def toTree (c : Component) : Tree :=
  .object [("name", .text c.name), ("primary_type", .text c.primaryType),
    ("description", .text c.description), ("technology", .text c.technology),
    ("supporting_types", .texts c.supportingTypes.toList)]

/-- Reads a component. -/
def ofTree (d : Dialect) (t : Tree) : Except DecodeError Component := do
  let fields ← d.fields fieldNames false t
  return {
    name := ← Dialect.required fields "name" d.text
    primaryType := ← Dialect.required fields "primary_type" d.text
    description := ← Dialect.optional fields "description" "" d.text
    technology := ← Dialect.optional fields "technology" "" d.text
    supportingTypes := .ofList (← Dialect.optional fields "supporting_types" [] d.texts) }

end Component

namespace Container

/-- The fields of a container in a document. -/
def fieldNames : List String := ["name", "description", "technology", "components"]

/-- The form of a container in a document. -/
def shape : Shape := .record (fieldNames.zip [.text, .text, .text, .list Component.shape])

/-- The tree of a container. -/
def toTree (c : Container) : Tree :=
  .object [("name", .text c.name), ("description", .text c.description),
    ("technology", .text c.technology), ("components", .list (c.components.map (·.toTree)))]

/-- Reads a container. -/
def ofTree (d : Dialect) (t : Tree) : Except DecodeError Container := do
  let fields ← d.fields fieldNames false t
  return {
    name := ← Dialect.required fields "name" d.text
    description := ← Dialect.optional fields "description" "" d.text
    technology := ← Dialect.optional fields "technology" "" d.text
    components := ← Dialect.optional fields "components" [] (d.list (Component.ofTree d)) }

end Container

namespace SoftwareSystem

/-- The fields of a system in a document. -/
def fieldNames : List String := ["name", "description", "containers"]

/-- The form of a system in a document. -/
def shape : Shape := .record (fieldNames.zip [.text, .text, .list Container.shape])

/-- The tree of a system. -/
def toTree (s : SoftwareSystem) : Tree :=
  .object [("name", .text s.name), ("description", .text s.description),
    ("containers", .list (s.containers.map (·.toTree)))]

/-- Reads a system. -/
def ofTree (d : Dialect) (t : Tree) : Except DecodeError SoftwareSystem := do
  let fields ← d.fields fieldNames false t
  return {
    name := ← Dialect.required fields "name" d.text
    description := ← Dialect.optional fields "description" "" d.text
    containers := ← Dialect.optional fields "containers" [] (d.list (Container.ofTree d)) }

end SoftwareSystem

namespace Model

/-- The fields of a model in a document. -/
def fieldNames : List String := ["software_systems"]

/-- The form of a model in a document. -/
def shape : Shape := .record (fieldNames.zip [.list SoftwareSystem.shape])

/-- The tree of a model. -/
def toTree (m : Model) : Tree :=
  .object [("software_systems", .list (m.softwareSystems.map (·.toTree)))]

/-- Reads a model. -/
def ofTree (d : Dialect) (t : Tree) : Except DecodeError Model := do
  let fields ← d.fields fieldNames false t
  return {
    softwareSystems :=
      ← Dialect.optional fields "software_systems" [] (d.list (SoftwareSystem.ofTree d)) }

end Model

end ComponentSupport
