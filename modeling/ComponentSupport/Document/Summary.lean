import ComponentSupport.Analysis.Analyzer
import ComponentSupport.Document.Snapshot

/-!
# Summaries in documents

The tree of a report summary: lists without items and failures that did not happen are left out.
Here are the settings of an analyzer too, which documents hold beside strategies.
-/

namespace ComponentSupport

/-- A field that is left out when there is no text. -/
def Tree.textField? (name : String) (value : Option String) : List (String × Tree) :=
  match value with
  | some s => [(name, .text s)]
  | none => []

namespace ComponentSummary

/-- The tree of one component. -/
def toTree (s : ComponentSummary) : Tree :=
  .object ([("component", .text s.component), ("primary_type", .text s.primaryType)] ++
    Tree.textsField "supporting_types" s.supportingTypes ++
    Tree.textField? "error_kind" s.errorKind ++ Tree.textField? "error" s.error)

/-- Reads one component. -/
def ofTree (d : Dialect) (t : Tree) : Except DecodeError ComponentSummary := do
  let fields ← d.fields
    ["component", "primary_type", "supporting_types", "error_kind", "error"] false t
  return {
    component := ← Dialect.required fields "component" d.text
    primaryType := ← Dialect.required fields "primary_type" d.text
    supportingTypes := ← Dialect.optional fields "supporting_types" [] d.texts
    errorKind := ← Dialect.optional fields "error_kind" none (Dialect.option d.text)
    error := ← Dialect.optional fields "error" none (Dialect.option d.text) }

end ComponentSummary

namespace ContainerSummary

/-- The tree of one container. -/
def toTree (s : ContainerSummary) : Tree :=
  .object [("container", .text s.container),
    ("components", .list (s.components.map (·.toTree)))]

/-- Reads one container. -/
def ofTree (d : Dialect) (t : Tree) : Except DecodeError ContainerSummary := do
  let fields ← d.fields ["container", "components"] false t
  return {
    container := ← Dialect.required fields "container" d.text
    components := ← Dialect.required fields "components" (d.list (ComponentSummary.ofTree d)) }

end ContainerSummary

namespace ReportSummary

/-- The tree of a summary. -/
def toTree (s : ReportSummary) : Tree :=
  .object [("components", .int s.components), ("failures", .int s.failures),
    ("supporting_types", .int s.supportingTypes),
    ("containers", .list (s.containers.map (·.toTree)))]

/-- Reads a summary. -/
def ofTree (d : Dialect) (t : Tree) : Except DecodeError ReportSummary := do
  let fields ← d.fields ["components", "failures", "supporting_types", "containers"] false t
  return {
    components := ← Dialect.required fields "components" (d.nat 64)
    failures := ← Dialect.required fields "failures" (d.nat 64)
    supportingTypes := ← Dialect.required fields "supporting_types" (d.nat 64)
    containers := ← Dialect.required fields "containers" (d.list (ContainerSummary.ofTree d)) }

end ReportSummary

namespace Assignment

/-- The assignment modes by their names in documents. -/
def choices : List (String × Assignment) :=
  [(replace.label, replace), (append.label, append)]

/-- Reads an assignment mode. -/
def ofTree (d : Dialect) (t : Tree) : Except DecodeError Assignment := d.choice choices t

end Assignment

namespace AnalyzerSettings

/-- The tree of the settings of an analyzer. -/
def toTree (s : AnalyzerSettings) : Tree :=
  .object [("parallel", .bool s.parallel), ("assignment", .text s.assignment.label)]

/-- Reads the settings of an analyzer. -/
def ofTree (d : Dialect) (t : Tree) : Except DecodeError AnalyzerSettings := do
  let fields ← d.fields ["parallel", "assignment"] false t
  return {
    parallel := ← Dialect.optional fields "parallel" true d.bool
    assignment := ← Dialect.optional fields "assignment" .replace (Assignment.ofTree d) }

end AnalyzerSettings

end ComponentSupport
