import ComponentSupport.Document.Dialect

/-!
# The dialects of the documents

Four kinds of places in documents, each with its own leniency.
-/

namespace ComponentSupport.Dialect

/-- JSON documents. -/
def json : Dialect := { positional := true, choiceByRecord := true }

/-- Models in YAML, which are read by their shape. -/
def modelFile : Dialect := {}

/-- Configurations in YAML, outside their strategies. -/
def configFile : Dialect := { nullIsEmpty := true, tagged := true }

/-- The fields of a strategy or a matcher, in either notation. -/
def variant : Dialect := { positional := true, choiceByRecord := true, byIndex := true }

end ComponentSupport.Dialect
