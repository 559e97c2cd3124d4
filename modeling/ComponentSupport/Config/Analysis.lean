import ComponentSupport.Analysis.Analyzer
import ComponentSupport.Config.Strategy

/-!
# Configurations

A configuration has a version, settings that all strategies share, and the list of strategies.
`AnalysisConfig.buildAnalyzer` checks it and makes the analyzer.
-/

namespace ComponentSupport

/-- Settings that all strategies of a configuration share. -/
structure AnalysisSettings where
  /-- The most types that a traversal may visit. -/
  maxTraversalNodes : Nat := 100000
  parallel : Bool := true
  assignment : Assignment := .replace
  deriving DecidableEq, Repr

/-- A configuration of an analysis. -/
structure AnalysisConfig where
  version : Nat
  analysis : AnalysisSettings := {}
  strategies : List StrategyConfig := [.standard]

/-- The versions of the form of configurations that can be read. -/
def supportedVersions : List Nat := [1]

namespace AnalysisSettings

/-- What this part of a configuration is called. -/
def configName : String := "AnalysisSettings"

/-- The largest limit that a configuration may set. -/
def largestLimit : Nat := 10000000

/-- Checks the limit: at least one type, and no more than can be meant. -/
def validate (s : AnalysisSettings) : Except ConfigError Unit :=
  if 1 ≤ s.maxTraversalNodes ∧ s.maxTraversalNodes ≤ largestLimit then .ok ()
  else
    .error (.range "analysis.max_traversal_nodes" s.maxTraversalNodes 1 largestLimit
      ("The cap only guards against corrupted type repositories; keep it well above the number " ++
        "of types you analyse"))

/-- The settings of the analyzer. -/
def analyzerSettings (s : AnalysisSettings) : AnalyzerSettings :=
  { parallel := s.parallel, assignment := s.assignment }

end AnalysisSettings

namespace AnalysisConfig

/-- What a configuration is called. -/
def configName : String := "AnalysisConfig"

/-- The configuration of an analysis that was not configured. -/
def standard : AnalysisConfig := { version := 1 }

instance : Inhabited AnalysisConfig := ⟨standard⟩

/-- Checks a version. -/
def checkVersion (found : Nat) : Except ConfigError Unit :=
  if supportedVersions.contains found then .ok ()
  else .error (.unsupportedVersion found supportedVersions)

/-- Checks a configuration: its version, its settings, and its strategies in order. -/
def validate (c : AnalysisConfig) : Except ConfigError Unit := do
  checkVersion c.version
  c.analysis.validate
  if c.strategies.isEmpty then
    throw (.emptyStrategyList "strategies")
  StrategyConfig.validateAll c.strategies

/-- Checks a configuration and makes its analyzer. -/
def buildAnalyzer (c : AnalysisConfig) (graph : TypeGraph) : Except ConfigError Analyzer := do
  c.validate
  let strategies ← StrategyConfig.buildAll c.analysis.maxTraversalNodes c.strategies
  return .ofStrategies graph c.analysis.analyzerSettings strategies

end AnalysisConfig

end ComponentSupport
