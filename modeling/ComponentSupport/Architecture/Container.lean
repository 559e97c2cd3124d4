import ComponentSupport.Architecture.Component
import ComponentSupport.Architecture.Error
import ComponentSupport.Text.Blank

/-!
# Containers

A container is a deployable unit that holds components. Its rule: names and primary types are not
blank and each occurs once, and no supporting type of a component is the primary type of any.

The rule is kept in two ways. `Container.insert` and `Container.assign` check a single step against
what is there, and answer the container as the step leaves it, with the rule that forbade the step if
there is one. `Container.validate` checks a whole container, which a document may describe as it
likes.
-/

namespace ComponentSupport

/-- Changes the first element of a list that passes a test, in its place. -/
def updateFirst {α : Type} (p : α → Bool) (f : α → α) : List α → List α
  | [] => []
  | x :: rest => if p x then f x :: rest else x :: updateFirst p f rest

/-- The elements before the first that passes stay, and so do those after it. -/
theorem updateFirst_append_cons {α : Type} {p : α → Bool} {before : List α} {x : α}
    (hbefore : ∀ y ∈ before, p y = false) (hx : p x = true) (f : α → α) (after : List α) :
    updateFirst p f (before ++ x :: after) = before ++ f x :: after := by
  induction before with
  | nil => simp [updateFirst, hx]
  | cons y before ih =>
    rw [List.forall_mem_cons] at hbefore
    rw [List.cons_append, updateFirst, if_neg (by simp [hbefore.1]), ih hbefore.2, List.cons_append]

/-- An element of the changed list was there before, or is what became of one that passes. -/
theorem mem_updateFirst {α : Type} {p : α → Bool} {f : α → α} {l : List α} {y : α}
    (h : y ∈ updateFirst p f l) : y ∈ l ∨ ∃ x ∈ l, p x = true ∧ y = f x := by
  induction l with
  | nil => exact Or.inl h
  | cons x rest ih =>
    unfold updateFirst at h
    split at h
    · next hp =>
      rcases List.mem_cons.1 h with rfl | h
      · exact Or.inr ⟨x, List.mem_cons_self, hp, rfl⟩
      · exact Or.inl (List.mem_cons_of_mem x h)
    · rcases List.mem_cons.1 h with rfl | h
      · exact Or.inl List.mem_cons_self
      · rcases ih h with h | ⟨z, hz, hpz, rfl⟩
        · exact Or.inl (List.mem_cons_of_mem x h)
        · exact Or.inr ⟨z, List.mem_cons_of_mem x hz, hpz, rfl⟩

/-- What the change keeps of an element is kept of the list. -/
theorem map_updateFirst {α β : Type} {p : α → Bool} {f : α → α} {g : α → β}
    (h : ∀ x, g (f x) = g x) (l : List α) : (updateFirst p f l).map g = l.map g := by
  induction l with
  | nil => rfl
  | cons x rest ih =>
    unfold updateFirst
    split
    · rw [List.map_cons, List.map_cons, h]
    · rw [List.map_cons, List.map_cons, ih]

/-- Two changes of the first element that passes are one, if the first of them keeps the test. -/
theorem updateFirst_updateFirst {α : Type} {p : α → Bool} {f : α → α} (h : ∀ x, p (f x) = p x)
    (g : α → α) (l : List α) : updateFirst p g (updateFirst p f l) = updateFirst p (g ∘ f) l := by
  induction l with
  | nil => rfl
  | cons x rest ih =>
    by_cases hx : p x = true
    · rw [updateFirst, if_pos hx, updateFirst, h, if_pos hx, updateFirst, if_pos hx]
      rfl
    · rw [updateFirst, if_neg hx, updateFirst, if_neg hx, ih, updateFirst, if_neg hx]

/-- Changes of different elements can be made in either order, if each keeps the test of the other. -/
theorem updateFirst_comm {α : Type} {p q : α → Bool} {f g : α → α} (hf : ∀ x, q (f x) = q x)
    (hg : ∀ x, p (g x) = p x) (hpq : ∀ x, p x = true → q x = false) (l : List α) :
    updateFirst q g (updateFirst p f l) = updateFirst p f (updateFirst q g l) := by
  induction l with
  | nil => rfl
  | cons x rest ih =>
    cases hp : p x with
    | true => simp [updateFirst, hf, hp, hpq x hp]
    | false =>
      cases hq : q x with
      | true => simp [updateFirst, hg, hp, hq]
      | false => simp [updateFirst, hp, hq, ih]

/-- A deployable unit with its components, in the order of their declaration. -/
structure Container where
  name : String
  description : String := ""
  technology : String := ""
  components : List Component := []
  deriving DecidableEq

namespace Container

/-! ### Looking up -/

/-- The first component of a name. -/
def component? (c : Container) (name : String) : Option Component :=
  c.components.find? (·.name == name)

/-- The primary types of all components. -/
def primaryTypes (c : Container) : NameSet :=
  .ofList (c.components.map (·.primaryType))

/-- The components that do not have the given name. -/
def siblings (c : Container) (name : String) : List Component :=
  c.components.filter (·.name != name)

/-- The primary types of the components that do not have the given name. -/
def siblingPrimaryTypes (c : Container) (name : String) : NameSet :=
  .ofList ((c.siblings name).map (·.primaryType))

/-- The first listed type that is the primary type of one of the components, and the name of the
first such component. -/
def owner? (components : List Component) (types : List String) : Option (String × String) :=
  types.findSome? fun type =>
    (components.find? (·.primaryType == type)).map fun owner => (type, owner.name)

/-! ### Adding a component -/

/-- The two names of a component are not blank. -/
def checkIdentifiers (component : Component) : Except ModelError Unit :=
  if Text.isBlank component.name then .error (.emptyName .component)
  else if Text.isBlank component.primaryType then .error (.emptyPrimaryType component.name)
  else .ok ()

/-- Neither the name nor the primary type of a component is taken by one of the others; `parent` is
the container they are in. -/
def checkFresh (parent : String) (others : List Component) (component : Component) :
    Except ModelError Unit := do
  checkIdentifiers component
  if others.any (·.name == component.name) then
    throw (.duplicateName .component component.name parent)
  if let some owner := others.find? (·.primaryType == component.primaryType) then
    throw (.duplicatePrimaryType component.primaryType component.name owner.name)

/-- A new component fits beside the ones that are there: its names are fresh, its primary type
supports none of them, and none of their primary types supports it. -/
def checkNew (c : Container) (component : Component) : Except ModelError Unit := do
  checkFresh c.name c.components component
  if let some holder := c.components.find? (component.primaryType ∈ ·.supportingTypes) then
    throw (.supportingTypeConflict component.primaryType holder.name component.name)
  if let some (type, owner) := owner? c.components component.supportingTypes.toList then
    throw (.supportingTypeConflict type component.name owner)

/-- Adds a component at the end, if it fits. -/
def insert (c : Container) (component : Component) : Container × Except ModelError Unit :=
  match c.checkNew component with
  | .ok () => ({ c with components := c.components ++ [component] }, .ok ())
  | .error e => (c, .error e)

/-- Adds a new component that has no supporting types yet. -/
def addComponent (c : Container) (name primaryType : String) :
    Container × Except ModelError Unit :=
  c.insert { name, primaryType }

/-! ### Writing supporting types -/

/-- The container with the first component of a name changed. -/
def update (c : Container) (name : String) (f : Component → Component) : Container :=
  { c with components := updateFirst (·.name == name) f c.components }

/-- The first listed type that is the primary type of a sibling of the named component, and the
sibling; of several such siblings, the one declared last. -/
def conflict? (c : Container) (name : String) (types : List String) : Option (String × String) :=
  owner? (c.siblings name).reverse types

/-- Writes supporting types onto the named component. A list with the primary type of a sibling is
refused whole; the component's own primary type is left out. -/
def assign (c : Container) (name : String) (types : List String) (mode : Assignment) :
    Container × Except ModelError Unit :=
  match c.conflict? name types with
  | some (type, owner) => (c, .error (.supportingTypeConflict type name owner))
  | none =>
    match c.component? name with
    | none => (c, .error (.unknownComponent name c.name))
    | some _ => (c.update name (·.assign types mode), .ok ())

/-! ### Checking the whole -/

/-- Every component is fresh among the ones declared before it. -/
def checkComponents (parent : String) (before : List Component) :
    List Component → Except ModelError Unit
  | [] => .ok ()
  | component :: rest => do
    checkFresh parent before component
    checkComponents parent (before ++ [component]) rest

/-- No supporting type of a component is its own primary type or that of another. -/
def checkSupportingTypes (all : List Component) (component : Component) :
    Except ModelError Unit := do
  if component.primaryType ∈ component.supportingTypes then
    throw (.selfSupportingType component.name component.primaryType)
  if let some (type, owner) := owner? all component.supportingTypes.toList then
    throw (.supportingTypeConflict type component.name owner)

/-- Checks a container as a whole: its name, then the names and primary types of its components in
order, then their supporting types. -/
def validate (c : Container) : Except ModelError Unit := do
  if Text.isBlank c.name then
    throw (.emptyName .container)
  checkComponents c.name [] c.components
  c.components.forM (checkSupportingTypes c.components)

end Container

end ComponentSupport
