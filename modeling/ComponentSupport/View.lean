import ComponentSupport.Architecture.Container

/-!
# Component views

A view is all that a strategy sees of a component: its name, its primary type, and the primary types
of its siblings in the container. Neither kind of primary type ever counts as a supporting type;
`ComponentView.retainSupporting` takes them out of a set.
-/

namespace ComponentSupport

/-- A component as a strategy sees it. -/
structure ComponentView where
  name : String
  primaryType : String
  /-- The primary types of the other components. -/
  siblings : NameSet := ∅
  deriving DecidableEq

namespace ComponentView

/-- The view with more siblings; its own primary type is not one of them. -/
def withSiblings (v : ComponentView) (types : List String) : ComponentView :=
  { v with siblings := v.siblings.insertAll (types.filter (· != v.primaryType)) }

/-- The view of a component as a member of a container. -/
def inContainer (container : Container) (component : Component) : ComponentView :=
  withSiblings { name := component.name, primaryType := component.primaryType }
    (container.siblingPrimaryTypes component.name).toList

/-- The views of all components of a container, in the order of their declaration. -/
def allInContainer (container : Container) : List ComponentView :=
  container.components.map (inContainer container)

/-- Whether a type can never support the component. -/
def excludes (v : ComponentView) (type : String) : Bool :=
  type == v.primaryType || decide (type ∈ v.siblings)

/-- The types of a set that may support the component. -/
def retainSupporting (v : ComponentView) (types : NameSet) : NameSet :=
  types.filter fun type => !v.excludes type

@[simp] theorem mem_retainSupporting {v : ComponentView} {types : NameSet} {type : String} :
    type ∈ v.retainSupporting types ↔
      type ∈ types ∧ type ≠ v.primaryType ∧ type ∉ v.siblings := by
  simp [retainSupporting, excludes]

end ComponentView

end ComponentSupport
