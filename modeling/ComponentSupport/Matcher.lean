import ComponentSupport.Pattern
import ComponentSupport.TypeGraph

/-!
# Matchers

A matcher is a test on type names: on the simple name, on the text of the whole name, or on what a
type graph knows about the type.
-/

namespace ComponentSupport

/-- A test on type names. -/
inductive Matcher where
  /-- The simple name ends so; a malformed name has no simple name and fails. -/
  | nameSuffix (suffix : String)
  /-- The pattern occurs in the name. -/
  | pattern (pattern : Pattern)
  /-- The type carries the annotation. -/
  | annotated (name : String)

namespace Matcher

/-- Whether a type passes the test. -/
def accepts (g : TypeGraph) (name : String) : Matcher → Bool
  | nameSuffix suffix =>
    match g.convention.simpleName name with
    | .ok simple => suffix.toList.isSuffixOf simple.toList
    | .error _ => false
  | pattern p => p.occursIn name
  | annotated a => decide (a ∈ g.annotationsOf name)

/-- What a test asks for, in words. -/
def description : Matcher → String
  | nameSuffix suffix => s!"simple name ends with '{suffix}'"
  | pattern p => s!"name matches /{p.text}/"
  | annotated a => s!"annotated with '{a}'"

end Matcher

end ComponentSupport
