import ComponentSupport.Architecture.Container

/-!
# Models

A model holds software systems, a system holds containers, a container holds components. Systems
are told apart by name, and containers within one system.
-/

namespace ComponentSupport

/-- A software system with its containers. -/
structure SoftwareSystem where
  name : String
  description : String := ""
  containers : List Container := []
  deriving DecidableEq

/-- An architecture model. -/
structure Model where
  softwareSystems : List SoftwareSystem := []
  deriving DecidableEq

namespace SoftwareSystem

/-- The first container of a name. -/
def container? (s : SoftwareSystem) (name : String) : Option Container :=
  s.containers.find? (·.name == name)

/-- Adds a container without components at the end; a name is given once. -/
def addContainer (s : SoftwareSystem) (name technology : String) (description : String := "") :
    SoftwareSystem × Except ModelError Unit :=
  if Text.isBlank name then (s, .error (.emptyName .container))
  else if (s.container? name).isSome then (s, .error (.duplicateName .container name s.name))
  else ({ s with containers := s.containers ++ [{ name, technology, description }] }, .ok ())

/-- Checks a system: its name, then its containers in order. -/
def validate (s : SoftwareSystem) : Except ModelError Unit := do
  if Text.isBlank s.name then
    throw (.emptyName .softwareSystem)
  s.containers.forM Container.validate

end SoftwareSystem

namespace Model

/-- The first system of a name. -/
def softwareSystem? (m : Model) (name : String) : Option SoftwareSystem :=
  m.softwareSystems.find? (·.name == name)

/-- Every container of every system, in order. -/
def containers (m : Model) : List Container :=
  m.softwareSystems.flatMap (·.containers)

/-- Every component of every container, in order. -/
def components (m : Model) : List Component :=
  m.containers.flatMap (·.components)

/-- Adds a system without containers at the end; a name is given once. -/
def addSoftwareSystem (m : Model) (name description : String) : Model × Except ModelError Unit :=
  if Text.isBlank name then (m, .error (.emptyName .softwareSystem))
  else if (m.softwareSystem? name).isSome then
    (m, .error (.duplicateName .softwareSystem name "model"))
  else ({ m with softwareSystems := m.softwareSystems ++ [{ name, description }] }, .ok ())

/-- Checks every system in order. -/
def validate (m : Model) : Except ModelError Unit :=
  m.softwareSystems.forM SoftwareSystem.validate

end Model

end ComponentSupport
