import ComponentSupport.Document.Model
import ComponentSupport.Yaml.Printer
import ComponentSupport.Yaml.Shaped

/-!
# Model files

A model is handed over as a YAML text.
-/

namespace ComponentSupport.Model

/-- The YAML text of a model. -/
def toYaml (m : Model) : String := m.toTree.toYaml

/-- Reads a model from a YAML text, or says why there is none. -/
def ofYaml (text : String) : Except String Model := do
  let t ← (Tree.ofShapedYaml shape text).mapError (·.message)
  (ofTree .modelFile t).mapError (·.message)

end ComponentSupport.Model
