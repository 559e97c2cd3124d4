import ComponentSupport.Analysis.Report
import ComponentSupport.Architecture.Model
import ComponentSupport.Strategy.Find

/-!
# Analysing a model

An analyzer has a type graph and a list of strategies, all of which it gives its graph. What it
finds for a component is what any of them finds.

A container is analysed in two phases. First every component is looked at in the container as it
is; then the results are written, component by component. A result that the container refuses
becomes a failure of that component, and a component with a failure keeps what it had.
-/

namespace ComponentSupport

/-- How an analyzer works. -/
structure AnalyzerSettings where
  /-- Whether components may be looked at side by side; the results are the same. -/
  parallel : Bool := true
  /-- How results are written. -/
  assignment : Assignment := .replace
  deriving DecidableEq, Repr

/-- Strategies that have one type graph in common. -/
structure Analyzer where
  graph : TypeGraph
  strategies : List Strategy := []
  settings : AnalyzerSettings := {}

namespace Analyzer

/-- Adds a strategy, which gets the type graph of the analyzer. -/
def addStrategy (a : Analyzer) (s : Strategy) : Analyzer :=
  { a with strategies := a.strategies ++ [s.bind a.graph] }

/-- The analyzer of a list of strategies. -/
def ofStrategies (graph : TypeGraph) (settings : AnalyzerSettings) (strategies : List Strategy) :
    Analyzer :=
  strategies.foldl addStrategy { graph, settings }

/-- What any strategy of the analyzer finds for a component. -/
def find (a : Analyzer) (v : ComponentView) : Except AnalysisError NameSet :=
  Strategy.findAll v a.strategies

/-- Writes what was found for a component into its container. -/
def write (a : Analyzer) (container : Container) (component : String)
    (result : Except AnalysisError NameSet) :
    Container × Except AnalysisError NameSet :=
  match result with
  | .error e => (container, .error e)
  | .ok types =>
    match container.assign component types.toList a.settings.assignment with
    | (written, .ok ()) => (written, .ok types)
    | (written, .error e) => (written, .error (.model e))

/-- Writes the results for a list of views in order. -/
def writeAll (a : Analyzer) (container : Container) :
    List (ComponentView × Except AnalysisError NameSet) → Container × List ComponentOutcome
  | [] => (container, [])
  | (v, result) :: rest =>
    let (written, result) := a.write container v.name result
    let (last, outcomes) := writeAll a written rest
    (last, { component := v.name, primaryType := v.primaryType, result } :: outcomes)

/-- Analyses the components of a container: the container after the results were written, and the
report. -/
def analyzeContainer (a : Analyzer) (container : Container) : Container × ContainerReport :=
  let views := ComponentView.allInContainer container
  let (written, outcomes) := a.writeAll container (views.map fun v => (v, a.find v))
  (written, { container := container.name, outcomes })

/-- Analyses the containers of a system in order. -/
def analyzeSystem (a : Analyzer) (s : SoftwareSystem) : SoftwareSystem × List ContainerReport :=
  let results := s.containers.map a.analyzeContainer
  ({ s with containers := results.map (·.1) }, results.map (·.2))

/-- Analyses every container of a model: the model after the results were written, and the report. -/
def analyzeModel (a : Analyzer) (m : Model) : Model × Report :=
  let results := m.softwareSystems.map a.analyzeSystem
  ({ m with softwareSystems := results.map (·.1) }, { containers := results.flatMap (·.2) })

end Analyzer

end ComponentSupport
