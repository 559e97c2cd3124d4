import ComponentSupport.Architecture.Model

/-!
# Editing a model

An `Edit` is one construction step on a model, naming the place it works on. `Model.perform` carries
it out in its place, and answers the model as the step leaves it and why the step failed if it did.
`Model.performAll` runs a list of edits, and goes on after a failing one with the model that it left.
-/

namespace ComponentSupport

/-- A construction step on a model. Systems, containers and components are named; the first element
of a name is meant. -/
inductive Edit where
  | addSoftwareSystem (name description : String)
  | addContainer (system name technology description : String)
  | addComponent (system container name primaryType : String)
  | insertComponent (system container : String) (component : Component)
  | assign (system container component : String) (types : List String) (mode : Assignment)
  | addSupportingTypes (system container component : String) (types : List String)
  | clearSupportingTypes (system container component : String)

/-- Why an edit was not carried out. -/
inductive EditError where
  /-- The place it names does not exist. -/
  | noSuch (element : ElementKind)
  /-- A rule of the model forbids it. -/
  | refused (cause : ModelError)
  deriving DecidableEq, Repr

/-- A step on a model that one of its rules may forbid, as an edit. -/
def refusable {α : Type} (step : α × Except ModelError Unit) : α × Except EditError Unit :=
  (step.1, step.2.mapError .refused)

/-- Carries out a step on the first element of a list that passes a test, in its place. -/
def stepAt {α : Type} (element : ElementKind) (p : α → Bool)
    (step : α → α × Except EditError Unit) (l : List α) : List α × Except EditError Unit :=
  match l.find? p with
  | none => (l, .error (.noSuch element))
  | some x => (updateFirst p (fun _ => (step x).1) l, (step x).2)

/-- Changes the named component. -/
def Container.changeComponent (c : Container) (name : String) (f : Component → Component) :
    Container × Except EditError Unit :=
  match c.component? name with
  | none => (c, .error (.noSuch .component))
  | some _ => (c.update name f, .ok ())

/-- Carries out a step on the named container. -/
def SoftwareSystem.changeContainer (s : SoftwareSystem) (name : String)
    (step : Container → Container × Except EditError Unit) :
    SoftwareSystem × Except EditError Unit :=
  let changed := stepAt .container (·.name == name) step s.containers
  ({ s with containers := changed.1 }, changed.2)

namespace Model

/-- Carries out a step on the named system. -/
def changeSystem (m : Model) (name : String)
    (step : SoftwareSystem → SoftwareSystem × Except EditError Unit) :
    Model × Except EditError Unit :=
  let changed := stepAt .softwareSystem (·.name == name) step m.softwareSystems
  ({ m with softwareSystems := changed.1 }, changed.2)

/-- Carries out a step on the named container of the named system. -/
def changeContainer (m : Model) (system container : String)
    (step : Container → Container × Except EditError Unit) : Model × Except EditError Unit :=
  m.changeSystem system (·.changeContainer container step)

/-- Carries out one edit. -/
def perform (m : Model) : Edit → Model × Except EditError Unit
  | .addSoftwareSystem name description => refusable (m.addSoftwareSystem name description)
  | .addContainer system name technology description =>
    m.changeSystem system fun s => refusable (s.addContainer name technology description)
  | .addComponent system container name primaryType =>
    m.changeContainer system container fun c => refusable (c.addComponent name primaryType)
  | .insertComponent system container component =>
    m.changeContainer system container fun c => refusable (c.insert component)
  | .assign system container component types mode =>
    m.changeContainer system container fun c => refusable (c.assign component types mode)
  | .addSupportingTypes system container component types =>
    m.changeContainer system container (·.changeComponent component (·.addSupportingTypes types))
  | .clearSupportingTypes system container component =>
    m.changeContainer system container (·.changeComponent component (·.clearSupportingTypes))

/-- The model after an edit that was carried out, or why it was not. -/
def apply (m : Model) (edit : Edit) : Except EditError Model :=
  let (after, result) := m.perform edit
  result.map fun _ => after

/-- Carries out edits in order, failing ones included. -/
def performAll (m : Model) (edits : List Edit) : Model :=
  edits.foldl (fun m edit => (m.perform edit).1) m

end Model

end ComponentSupport
