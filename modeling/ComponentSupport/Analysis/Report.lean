import ComponentSupport.Analysis.Error
import ComponentSupport.NameSet

/-!
# Reports

An analysis reports one outcome for each component, under the container that holds it: the types
that were found, or the failure. A `ReportSummary` is the report in the plain data that documents
hold, with the totals; `ReportSummary.text` is its text form.
-/

namespace ComponentSupport

/-- What an analysis found for one component. -/
structure ComponentOutcome where
  component : String
  primaryType : String
  result : Except AnalysisError NameSet

/-- The outcomes for the components of one container, in the order of their declaration. -/
structure ContainerReport where
  container : String
  outcomes : List ComponentOutcome

/-- The outcomes for a model. -/
structure Report where
  containers : List ContainerReport

/-- One component in a summary. A failure is given by its kind and its message. -/
structure ComponentSummary where
  component : String
  primaryType : String
  supportingTypes : List String := []
  errorKind : Option String := none
  error : Option String := none
  deriving DecidableEq, Repr

/-- One container in a summary. -/
structure ContainerSummary where
  container : String
  components : List ComponentSummary
  deriving DecidableEq, Repr

/-- A report as plain data, with its totals. -/
structure ReportSummary where
  components : Nat
  failures : Nat
  supportingTypes : Nat
  containers : List ContainerSummary
  deriving DecidableEq, Repr

/-- The analysis of the component succeeded. -/
def ComponentOutcome.isSuccess (o : ComponentOutcome) : Bool := o.result.isOk

/-- The number of supporting types found for the component; a failure finds none. -/
def ComponentOutcome.supportingTypeCount (o : ComponentOutcome) : Nat :=
  match o.result with
  | .ok types => types.size
  | .error _ => 0

/-- One outcome as plain data. -/
def ComponentOutcome.summary (o : ComponentOutcome) : ComponentSummary :=
  match o.result with
  | .ok types =>
    { component := o.component, primaryType := o.primaryType, supportingTypes := types.toList }
  | .error e =>
    { component := o.component, primaryType := o.primaryType, errorKind := some e.kind.label,
      error := some e.message }

namespace ContainerReport

/-- The outcomes that succeeded. -/
def succeeded (r : ContainerReport) : List ComponentOutcome := r.outcomes.filter (·.isSuccess)

/-- The outcomes that failed. -/
def failed (r : ContainerReport) : List ComponentOutcome := r.outcomes.filter (!·.isSuccess)

/-- Every outcome succeeded. -/
def isSuccess (r : ContainerReport) : Bool := r.outcomes.all (·.isSuccess)

/-- The outcomes of a container as plain data. -/
def summary (r : ContainerReport) : ContainerSummary :=
  { container := r.container, components := r.outcomes.map (·.summary) }

end ContainerReport

namespace Report

/-- All outcomes in order. -/
def outcomes (r : Report) : List ComponentOutcome := r.containers.flatMap (·.outcomes)

/-- Every outcome succeeded. -/
def isSuccess (r : Report) : Bool := r.containers.all (·.isSuccess)

/-- The number of components. -/
def componentCount (r : Report) : Nat := r.outcomes.length

/-- The number of failures. -/
def failureCount (r : Report) : Nat := (r.outcomes.filter (!·.isSuccess)).length

/-- The number of supporting types found, summed over the components. -/
def supportingTypeCount (r : Report) : Nat :=
  r.outcomes.foldl (fun n o => n + o.supportingTypeCount) 0

/-- The report as plain data. -/
def summary (r : Report) : ReportSummary :=
  { components := r.componentCount
    failures := r.failureCount
    supportingTypes := r.supportingTypeCount
    containers := r.containers.map (·.summary) }

end Report

/-- The lines for one component: what was found, one type a line, or the failure. -/
def ComponentSummary.text (s : ComponentSummary) : String :=
  match s.error with
  | some error =>
    s!"  {s.component} ({s.primaryType}): FAILED [" ++ s.errorKind.getD "unknown" ++ s!"] {error}\n"
  | none =>
    s!"  {s.component} ({s.primaryType}): {s.supportingTypes.length} supporting types\n" ++
      String.join (s.supportingTypes.map fun type => s!"    - {type}\n")

/-- The lines for one container. -/
def ContainerSummary.text (s : ContainerSummary) : String :=
  s!"{s.container}\n" ++ String.join (s.components.map (·.text))

/-- A summary as text: the containers, and a last line with the totals. -/
def ReportSummary.text (s : ReportSummary) : String :=
  String.join (s.containers.map (·.text)) ++
    s!"{s.components} components, {s.failures} failed, {s.supportingTypes} supporting types"

end ComponentSupport
