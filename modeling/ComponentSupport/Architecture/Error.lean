/-!
# What an architecture model refuses

Each constructor of `ModelError` is one rule of the model that a construction step or a check found
broken, with the names a reader needs to find the place; `ModelError.message` words it.
-/

namespace ComponentSupport

/-- The kinds of named elements of a model. -/
inductive ElementKind where
  | component
  | container
  | softwareSystem
  deriving DecidableEq, Repr

/-- What an element kind is called in messages. -/
def ElementKind.label : ElementKind → String
  | component => "Component"
  | container => "Container"
  | softwareSystem => "SoftwareSystem"

/-- A broken rule of an architecture model. -/
inductive ModelError where
  /-- A name is blank. -/
  | emptyName (element : ElementKind)
  /-- A component has a blank primary type. -/
  | emptyPrimaryType (component : String)
  /-- Two elements of one parent have the same name. -/
  | duplicateName (element : ElementKind) (name parent : String)
  /-- Two components of a container have the same primary type. -/
  | duplicatePrimaryType (primaryType component owner : String)
  /-- A container has no component of that name. -/
  | unknownComponent (component container : String)
  /-- A component has its own primary type among its supporting types. -/
  | selfSupportingType (component primaryType : String)
  /-- A supporting type of one component is the primary type of another. -/
  | supportingTypeConflict (type component owner : String)
  deriving DecidableEq, Repr

/-- The wording of a broken rule. -/
def ModelError.message : ModelError → String
  | emptyName element => s!"{element.label} name must not be empty"
  | emptyPrimaryType component => s!"Component '{component}' must have a primary type"
  | duplicateName element name parent => s!"{element.label} '{name}' already exists in '{parent}'"
  | duplicatePrimaryType primaryType component owner =>
    s!"Primary type '{primaryType}' of component '{component}' is already owned by component " ++
      s!"'{owner}'"
  | unknownComponent component container =>
    s!"Component '{component}' not found in container '{container}'"
  | selfSupportingType component primaryType =>
    s!"Component '{component}' cannot list its own primary type '{primaryType}' as a " ++
      "supporting type"
  | supportingTypeConflict type component owner =>
    s!"Type '{type}' cannot support component '{component}': it is the primary type of " ++
      s!"component '{owner}'"

end ComponentSupport
