import ComponentSupport.NameSet

/-!
# Components

A component is one element of a container. It is identified by its name and by its primary type,
and its supporting types are the types that serve the primary type and nothing else. Writing
supporting types through `add` and `replace` leaves the primary type out; a component that is read
from a document is taken as it stands, and `Container.validate` judges it.
-/

namespace ComponentSupport

/-- How newly found supporting types are written onto a component. -/
inductive Assignment where
  /-- The types found take the place of the old ones. -/
  | replace
  /-- The types found join the old ones. -/
  | append
  deriving DecidableEq, Repr, Inhabited

/-- The name of an assignment mode in documents. -/
def Assignment.label : Assignment → String
  | replace => "replace"
  | append => "append"

/-- What a mode makes of the types that are there and of new ones. -/
def Assignment.combine (old new : NameSet) : Assignment → NameSet
  | replace => new
  | append => old ∪ new

/-- A component with its primary type and its supporting types. -/
structure Component where
  name : String
  /-- The type that the component is considered to be. -/
  primaryType : String
  description : String := ""
  technology : String := ""
  /-- The private helpers of the primary type. -/
  supportingTypes : NameSet := ∅
  deriving DecidableEq

namespace Component

/-- Adds supporting types, the primary type excepted. -/
def addSupportingTypes (c : Component) (types : List String) : Component :=
  { c with
    supportingTypes := c.supportingTypes.insertAll (types.filter (· != c.primaryType)) }

/-- Drops every supporting type. -/
def clearSupportingTypes (c : Component) : Component :=
  { c with supportingTypes := ∅ }

/-- Sets the supporting types anew, the primary type excepted. -/
def replaceSupportingTypes (c : Component) (types : List String) : Component :=
  c.clearSupportingTypes.addSupportingTypes types

/-- Writes supporting types in one of the two modes. -/
def assign (c : Component) (types : List String) : Assignment → Component
  | .replace => c.replaceSupportingTypes types
  | .append => c.addSupportingTypes types

@[simp] theorem mem_addSupportingTypes {c : Component} {types : List String} {type : String} :
    type ∈ (c.addSupportingTypes types).supportingTypes ↔
      (type ∈ types ∧ type ≠ c.primaryType) ∨ type ∈ c.supportingTypes := by
  simp [addSupportingTypes]

@[simp] theorem mem_replaceSupportingTypes {c : Component} {types : List String} {type : String} :
    type ∈ (c.replaceSupportingTypes types).supportingTypes ↔
      type ∈ types ∧ type ≠ c.primaryType := by
  simp [replaceSupportingTypes, clearSupportingTypes]

/-- Writing supporting types changes nothing else. -/
theorem assign_eq (c : Component) (types : List String) (mode : Assignment) :
    c.assign types mode = { c with supportingTypes := (c.assign types mode).supportingTypes } := by
  cases mode <;> rfl

/-- A write combines the set of the new types, the primary type excepted, with the old types. -/
theorem assign_eq_combine (c : Component) (types : List String) (mode : Assignment) :
    c.assign types mode =
      { c with
        supportingTypes :=
          mode.combine c.supportingTypes ((NameSet.ofList types).erase c.primaryType) } := by
  rw [assign_eq]
  refine congrArg (fun s => { c with supportingTypes := s }) (NameSet.ext fun x => ?_)
  cases mode with
  | replace => simp [assign, Assignment.combine]
  | append => simp [assign, Assignment.combine, or_comm]

/-- A type that is written is there afterwards, unless it is the primary type. -/
theorem mem_assign_of_mem {c : Component} {types : List String} {type : String} (h : type ∈ types)
    (hne : type ≠ c.primaryType) (mode : Assignment) :
    type ∈ (c.assign types mode).supportingTypes := by
  rw [assign_eq_combine]
  cases mode with
  | replace => simp [Assignment.combine, h, hne]
  | append => simp [Assignment.combine, h, hne]

@[simp] theorem name_assign (c : Component) (types : List String) (mode : Assignment) :
    (c.assign types mode).name = c.name := by
  rw [assign_eq]

@[simp] theorem primaryType_assign (c : Component) (types : List String) (mode : Assignment) :
    (c.assign types mode).primaryType = c.primaryType := by
  rw [assign_eq]

/-- Whether a type is the primary type or a supporting type. -/
def ownsType (c : Component) (type : String) : Bool :=
  c.primaryType == type || decide (type ∈ c.supportingTypes)

end Component

end ComponentSupport
