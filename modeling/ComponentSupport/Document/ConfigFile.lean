import ComponentSupport.Document.Config
import ComponentSupport.Files
import ComponentSupport.Yaml.Expansion
import ComponentSupport.Yaml.Printer

/-!
# Configuration files

A configuration is handed over as a YAML text.
-/

namespace ComponentSupport.AnalysisConfig

/-- The YAML text of a configuration. -/
def toYaml (c : AnalysisConfig) : String := c.toTree.toYaml

/-- Reads a configuration from a YAML text, and checks it. -/
def ofYaml (text : String) : Except ConfigError AnalysisConfig := do
  ofYamlTree (← (Tree.ofYaml text).mapError fun problem => .yaml problem.message)

/-- Reads a configuration from a file, and checks it. -/
def ofFile (files : Files) (path : String) : Except ConfigError AnalysisConfig := do
  ofYaml (← (files.read path).mapError .io)

end ComponentSupport.AnalysisConfig
