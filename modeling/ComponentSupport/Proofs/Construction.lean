import ComponentSupport.Architecture.Edit
import ComponentSupport.Proofs.ContainerRule

/-!
# Models under construction

A model is built from the empty one by edits, some of which fail. This module proves that it keeps
all its rules on the way, whatever the edits are and in whatever order they come, and that an edit
that fails leaves the whole model as it was (`Model.perform_atomic`).

`Model.WellFormed` collects the rules: those of the containers, and the names at each level. Each
level has one lemma that carries the rules over a step on one of its elements
(`SoftwareSystem.WellFormed.changeContainer`, `Model.WellFormed.changeSystem`), so that an edit needs
to be looked at only at the level it works on.

Two things can break the rule of a container, and `Edit.Guarded` leaves them out: writing supporting
types onto a component without asking its container, and inserting a component that supports itself,
which its own operations never make (`Component.Built`).
-/

namespace ComponentSupport

/-- A component made by its own operations. -/
inductive Component.Built : Component → Prop where
  | new (name primaryType : String) : Built { name, primaryType }
  | described {k : Component} (description technology : String) :
      Built k → Built { k with description, technology }
  | add {k : Component} (types : List String) : Built k → Built (k.addSupportingTypes types)
  | replace {k : Component} (types : List String) : Built k → Built (k.replaceSupportingTypes types)

/-- A component never comes to support itself. -/
theorem Component.Built.primaryType_not_mem {k : Component} (h : k.Built) :
    k.primaryType ∉ k.supportingTypes := by
  induction h with
  | new name primaryType => exact NameSet.not_mem_empty _
  | described _ _ _ ih => exact ih
  | add types _ ih =>
    rw [Component.mem_addSupportingTypes]
    rintro (hmem | hmem)
    · exact hmem.2 rfl
    · exact ih hmem
  | replace types _ _ =>
    rw [Component.mem_replaceSupportingTypes]
    exact fun hmem => hmem.2 rfl

/-- An edit that the container has a say in, or that only takes away. -/
def Edit.Guarded : Edit → Prop
  | .insertComponent _ _ component => component.Built
  | .addSupportingTypes _ _ _ _ => False
  | _ => True

/-! ### Steps that fail -/

/-- A step that fails changes nothing. -/
def Atomic {α ε : Type} (step : α → α × Except ε Unit) : Prop :=
  ∀ x e, (step x).2 = .error e → (step x).1 = x

/-- It either succeeds or fails where it started. -/
theorem Atomic.of_cases {α ε : Type} {step : α → α × Except ε Unit}
    (h : ∀ x, (step x).2 = .ok () ∨ ∃ e, step x = (x, .error e)) : Atomic step := by
  intro x e he
  rcases h x with hok | ⟨_, hfail⟩
  · rw [hok] at he
    cases he
  · rw [hfail]

theorem Atomic.refusable {α : Type} {step : α → α × Except ModelError Unit} (h : Atomic step) :
    Atomic fun x => refusable (step x) := by
  intro x e he
  change (step x).2.mapError .refused = .error e at he
  cases hstep : (step x).2 with
  | ok _ =>
    rw [hstep] at he
    cases he
  | error cause => exact h x cause hstep

/-- The element that a step fails on is put back as it was. -/
theorem Atomic.stepAt {α : Type} {step : α → α × Except EditError Unit} (h : Atomic step)
    (element : ElementKind) (p : α → Bool) : Atomic (stepAt element p step) := by
  intro l e he
  unfold ComponentSupport.stepAt at he ⊢
  cases hfind : l.find? p with
  | none => rfl
  | some x =>
    rw [hfind] at he
    obtain ⟨hx, before, after, rfl, hbefore⟩ := List.find?_eq_some_iff_append.1 hfind
    have hbefore' : ∀ y ∈ before, p y = false := fun y hy => by simpa using hbefore y hy
    show updateFirst p _ (before ++ x :: after) = before ++ x :: after
    rw [updateFirst_append_cons hbefore' hx, h x e he]

namespace Container

theorem insert_atomic (k : Component) : Atomic fun c : Container => c.insert k :=
  .of_cases fun c => by
    rcases c.insert_cases k with ⟨-, h⟩ | ⟨e, -, h⟩
    · exact Or.inl (congrArg Prod.snd h)
    · exact Or.inr ⟨e, h⟩

theorem assign_atomic (name : String) (types : List String) (mode : Assignment) :
    Atomic fun c : Container => c.assign name types mode :=
  .of_cases fun c => by
    rcases c.assign_cases name types mode with ⟨-, -, h⟩ | h
    · exact Or.inl (congrArg Prod.snd h)
    · exact Or.inr h

theorem changeComponent_cases (c : Container) (name : String) (f : Component → Component) :
    c.changeComponent name f = (c.update name f, .ok ()) ∨
      ∃ e, c.changeComponent name f = (c, .error e) := by
  unfold changeComponent
  cases c.component? name with
  | none => exact Or.inr ⟨_, rfl⟩
  | some k => exact Or.inl rfl

theorem changeComponent_atomic (name : String) (f : Component → Component) :
    Atomic fun c : Container => c.changeComponent name f :=
  .of_cases fun c => (c.changeComponent_cases name f).imp_left (congrArg Prod.snd)

end Container

namespace SoftwareSystem

theorem addContainer_cases (s : SoftwareSystem) (name technology description : String) :
    (Text.isBlank name = false ∧ (∀ c ∈ s.containers, c.name ≠ name) ∧
      s.addContainer name technology description =
        ({ s with containers := s.containers ++ [{ name, technology, description }] }, .ok ())) ∨
    ∃ e, s.addContainer name technology description = (s, .error e) := by
  unfold addContainer
  split
  · exact Or.inr ⟨_, rfl⟩
  · next hblank =>
    split
    · exact Or.inr ⟨_, rfl⟩
    · next hname =>
      refine Or.inl ⟨by simpa using hblank, fun c hc => ?_, rfl⟩
      simp only [container?, Option.isSome_iff_ne_none, ne_eq, Decidable.not_not,
        List.find?_eq_none, beq_iff_eq] at hname
      exact hname c hc

theorem addContainer_atomic (name technology description : String) :
    Atomic fun s : SoftwareSystem => s.addContainer name technology description :=
  .of_cases fun s => by
    rcases s.addContainer_cases name technology description with ⟨-, -, h⟩ | h
    · exact Or.inl (congrArg Prod.snd h)
    · exact Or.inr h

theorem changeContainer_atomic {step : Container → Container × Except EditError Unit}
    (h : Atomic step) (name : String) :
    Atomic fun s : SoftwareSystem => s.changeContainer name step := by
  intro s e he
  show { s with containers := (stepAt _ _ _ _).1 } = s
  rw [h.stepAt .container (·.name == name) s.containers e he]

end SoftwareSystem

namespace Model

theorem addSoftwareSystem_cases (m : Model) (name description : String) :
    (Text.isBlank name = false ∧ (∀ s ∈ m.softwareSystems, s.name ≠ name) ∧
      m.addSoftwareSystem name description =
        ({ m with softwareSystems := m.softwareSystems ++ [{ name, description }] }, .ok ())) ∨
    ∃ e, m.addSoftwareSystem name description = (m, .error e) := by
  unfold addSoftwareSystem
  split
  · exact Or.inr ⟨_, rfl⟩
  · next hblank =>
    split
    · exact Or.inr ⟨_, rfl⟩
    · next hname =>
      refine Or.inl ⟨by simpa using hblank, fun s hs => ?_, rfl⟩
      simp only [softwareSystem?, Option.isSome_iff_ne_none, ne_eq, Decidable.not_not,
        List.find?_eq_none, beq_iff_eq] at hname
      exact hname s hs

theorem addSoftwareSystem_atomic (name description : String) :
    Atomic fun m : Model => m.addSoftwareSystem name description :=
  .of_cases fun m => by
    rcases m.addSoftwareSystem_cases name description with ⟨-, -, h⟩ | h
    · exact Or.inl (congrArg Prod.snd h)
    · exact Or.inr h

theorem changeSystem_atomic {step : SoftwareSystem → SoftwareSystem × Except EditError Unit}
    (h : Atomic step) (name : String) : Atomic fun m : Model => m.changeSystem name step := by
  intro m e he
  show { m with softwareSystems := (stepAt _ _ _ _).1 } = m
  rw [h.stepAt .softwareSystem (·.name == name) m.softwareSystems e he]

theorem changeContainer_atomic {step : Container → Container × Except EditError Unit}
    (h : Atomic step) (system container : String) :
    Atomic fun m : Model => m.changeContainer system container step :=
  changeSystem_atomic (SoftwareSystem.changeContainer_atomic h container) system

/-- **Failing edits**: an edit that fails leaves the model as it was. -/
theorem perform_atomic (edit : Edit) : Atomic fun m : Model => m.perform edit := by
  cases edit with
  | addSoftwareSystem name description => exact (addSoftwareSystem_atomic name description).refusable
  | addContainer system name technology description =>
    exact changeSystem_atomic
      (SoftwareSystem.addContainer_atomic name technology description).refusable system
  | addComponent system container name primaryType =>
    exact changeContainer_atomic (Container.insert_atomic _).refusable system container
  | insertComponent system container component =>
    exact changeContainer_atomic (Container.insert_atomic component).refusable system container
  | assign system container component types mode =>
    exact changeContainer_atomic (Container.assign_atomic component types mode).refusable system
      container
  | addSupportingTypes system container component types =>
    exact changeContainer_atomic (Container.changeComponent_atomic component _) system container
  | clearSupportingTypes system container component =>
    exact changeContainer_atomic (Container.changeComponent_atomic component _) system container

end Model

/-! ### The rules of a model -/

/-- The rules of a system: names, and the rules of its containers. -/
structure SoftwareSystem.WellFormed (s : SoftwareSystem) : Prop where
  /-- The system has a name. -/
  name : Text.isBlank s.name = false
  /-- Its containers keep their rule. -/
  containers : ∀ c ∈ s.containers, c.Valid
  /-- No container name occurs twice. -/
  names : (s.containers.map (·.name)).Nodup

/-- The rules of a model. -/
structure Model.WellFormed (m : Model) : Prop where
  /-- Its systems keep their rules. -/
  softwareSystems : ∀ s ∈ m.softwareSystems, s.WellFormed
  /-- No system name occurs twice. -/
  names : (m.softwareSystems.map (·.name)).Nodup

/-- What every element has, and what the step gives to what has it, every element has after. -/
theorem forall_mem_stepAt {α : Type} {P : α → Prop} {element : ElementKind} {p : α → Bool}
    {step : α → α × Except EditError Unit} {l : List α} (hl : ∀ x ∈ l, P x)
    (hstep : ∀ x ∈ l, P (step x).1) : ∀ y ∈ (stepAt element p step l).1, P y := by
  intro y hy
  unfold stepAt at hy
  cases hfind : l.find? p with
  | none =>
    rw [hfind] at hy
    exact hl y hy
  | some x =>
    rw [hfind] at hy
    rcases mem_updateFirst hy with hy | ⟨_, _, -, rfl⟩
    · exact hl y hy
    · exact hstep x (List.mem_of_find?_eq_some hfind)

/-- Names that the step keeps are the names after. -/
theorem map_stepAt {α β : Type} {g : α → β} {element : ElementKind} {p : α → Bool}
    {step : α → α × Except EditError Unit} (hstep : ∀ x, g (step x).1 = g x) (l : List α) :
    (stepAt element p step l).1.map g = l.map g := by
  unfold stepAt
  cases hfind : l.find? p with
  | none => rfl
  | some x =>
    obtain ⟨hx, before, after, rfl, hbefore⟩ := List.find?_eq_some_iff_append.1 hfind
    have hbefore' : ∀ y ∈ before, p y = false := fun y hy => by simpa using hbefore y hy
    show (updateFirst p _ (before ++ x :: after)).map g = (before ++ x :: after).map g
    rw [updateFirst_append_cons hbefore' hx, List.map_append, List.map_cons, hstep,
      List.map_append, List.map_cons]

namespace Container

theorem name_insert (c : Container) (k : Component) : (c.insert k).1.name = c.name := by
  rcases c.insert_cases k with ⟨-, h⟩ | ⟨_, -, h⟩ <;> rw [h]

theorem name_assign (c : Container) (name : String) (types : List String) (mode : Assignment) :
    (c.assign name types mode).1.name = c.name := by
  rcases c.assign_cases name types mode with ⟨-, -, h⟩ | ⟨_, h⟩
  · rw [h]
    rfl
  · rw [h]

theorem name_changeComponent (c : Container) (name : String) (f : Component → Component) :
    (c.changeComponent name f).1.name = c.name := by
  rcases c.changeComponent_cases name f with h | ⟨_, h⟩ <;> rw [h]
  rfl

/-- Taking supporting types away keeps the rule. -/
theorem Valid.clear {c : Container} (h : c.Valid) (name : String) :
    (c.changeComponent name (·.clearSupportingTypes)).1.Valid := by
  rcases c.changeComponent_cases name (·.clearSupportingTypes) with hc | ⟨_, hc⟩
  · rw [hc]
    exact h.update (fun _ => rfl) (fun _ => rfl) fun _ _ _ _ _ => NameSet.not_mem_empty _
  · rw [hc]
    exact h

end Container

namespace SoftwareSystem

theorem name_addContainer (s : SoftwareSystem) (name technology description : String) :
    (s.addContainer name technology description).1.name = s.name := by
  rcases s.addContainer_cases name technology description with ⟨-, -, h⟩ | ⟨_, h⟩ <;> rw [h]

theorem WellFormed.addContainer {s : SoftwareSystem} (h : s.WellFormed)
    (name technology description : String) :
    (s.addContainer name technology description).1.WellFormed := by
  rcases s.addContainer_cases name technology description with ⟨hblank, hfresh, hs⟩ | ⟨_, hs⟩
  · rw [hs]
    refine ⟨h.name, fun c hc => ?_, ?_⟩
    · rcases List.mem_append.1 hc with hc | hc
      · exact h.containers c hc
      · rw [List.mem_singleton.1 hc]
        exact ⟨hblank, fun _ hk => absurd hk List.not_mem_nil, List.nodup_nil, List.nodup_nil,
          fun _ hk => absurd hk List.not_mem_nil⟩
    · rw [List.map_append, List.map_singleton, List.nodup_append]
      refine ⟨h.names, List.nodup_singleton _, fun n hn n' hn' => ?_⟩
      obtain ⟨c, hc, rfl⟩ := List.mem_map.1 hn
      rw [List.mem_singleton.1 hn']
      exact hfresh c hc
  · rw [hs]
    exact h

/-- A step that keeps the rule of a container keeps the rules of its system. -/
theorem WellFormed.changeContainer {s : SoftwareSystem} (h : s.WellFormed)
    {step : Container → Container × Except EditError Unit} (hname : ∀ c, (step c).1.name = c.name)
    (hstep : ∀ c, c.Valid → (step c).1.Valid) (name : String) :
    (s.changeContainer name step).1.WellFormed where
  name := h.name
  containers := forall_mem_stepAt h.containers fun c hc => hstep c (h.containers c hc)
  names := (map_stepAt hname s.containers).symm ▸ h.names

end SoftwareSystem

namespace Model

theorem WellFormed.empty : WellFormed {} :=
  ⟨fun _ hs => absurd hs List.not_mem_nil, List.nodup_nil⟩

theorem WellFormed.addSoftwareSystem {m : Model} (h : m.WellFormed) (name description : String) :
    (m.addSoftwareSystem name description).1.WellFormed := by
  rcases m.addSoftwareSystem_cases name description with ⟨hblank, hfresh, hm⟩ | ⟨_, hm⟩
  · rw [hm]
    refine ⟨fun s hs => ?_, ?_⟩
    · rcases List.mem_append.1 hs with hs | hs
      · exact h.softwareSystems s hs
      · rw [List.mem_singleton.1 hs]
        exact ⟨hblank, fun _ hc => absurd hc List.not_mem_nil, List.nodup_nil⟩
    · rw [List.map_append, List.map_singleton, List.nodup_append]
      refine ⟨h.names, List.nodup_singleton _, fun n hn n' hn' => ?_⟩
      obtain ⟨s, hs, rfl⟩ := List.mem_map.1 hn
      rw [List.mem_singleton.1 hn']
      exact hfresh s hs
  · rw [hm]
    exact h

/-- A step that keeps the rules of a system keeps those of the model. -/
theorem WellFormed.changeSystem {m : Model} (h : m.WellFormed)
    {step : SoftwareSystem → SoftwareSystem × Except EditError Unit}
    (hname : ∀ s, (step s).1.name = s.name) (hstep : ∀ s, s.WellFormed → (step s).1.WellFormed)
    (name : String) : (m.changeSystem name step).1.WellFormed where
  softwareSystems :=
    forall_mem_stepAt h.softwareSystems fun s hs => hstep s (h.softwareSystems s hs)
  names := (map_stepAt hname m.softwareSystems).symm ▸ h.names

theorem WellFormed.changeContainer {m : Model} (h : m.WellFormed)
    {step : Container → Container × Except EditError Unit} (hname : ∀ c, (step c).1.name = c.name)
    (hstep : ∀ c, c.Valid → (step c).1.Valid) (system container : String) :
    (m.changeContainer system container step).1.WellFormed :=
  h.changeSystem (fun _ => rfl) (fun _ hs => hs.changeContainer hname hstep container) system

/-- One edit keeps the rules. -/
theorem WellFormed.perform {m : Model} (h : m.WellFormed) {edit : Edit} (hedit : edit.Guarded) :
    (m.perform edit).1.WellFormed := by
  cases edit with
  | addSoftwareSystem name description => exact h.addSoftwareSystem name description
  | addContainer system name technology description =>
    exact h.changeSystem (fun s => s.name_addContainer name technology description)
      (fun s hs => hs.addContainer name technology description) system
  | addComponent system container name primaryType =>
    exact h.changeContainer (fun c => c.name_insert _)
      (fun c hc => hc.insert (Component.Built.new name primaryType).primaryType_not_mem) system
      container
  | insertComponent system container component =>
    exact h.changeContainer (fun c => c.name_insert component)
      (fun c hc => hc.insert hedit.primaryType_not_mem) system container
  | assign system container component types mode =>
    exact h.changeContainer (fun c => c.name_assign component types mode)
      (fun c hc => hc.assign component types mode) system container
  | addSupportingTypes system container component types => exact hedit.elim
  | clearSupportingTypes system container component =>
    exact h.changeContainer (fun c => c.name_changeComponent component _)
      (fun c hc => hc.clear component) system container

/-- Any number of edits keeps the rules. -/
theorem WellFormed.performAll {m : Model} (h : m.WellFormed) {edits : List Edit}
    (hedits : ∀ edit ∈ edits, edit.Guarded) : (m.performAll edits).WellFormed := by
  induction edits generalizing m with
  | nil => exact h
  | cons edit rest ih =>
    rw [List.forall_mem_cons] at hedits
    exact ih (h.perform hedits.1) hedits.2

/-- Validation of a model looks at the names of its systems and at its containers. -/
theorem validate_eq_ok_iff (m : Model) :
    m.validate = .ok () ↔
      ∀ s ∈ m.softwareSystems, Text.isBlank s.name = false ∧ ∀ c ∈ s.containers, c.Valid := by
  unfold validate
  rw [forM_eq_ok_iff]
  refine forall₂_congr fun s _ => ?_
  unfold SoftwareSystem.validate
  rw [guard_eq_ok_iff, forM_eq_ok_iff, Bool.not_eq_true]
  simp only [Container.validate_eq_ok_iff]

/-- **Construction**: whatever guarded edits are carried out on the empty model, failing ones
included, the model validates, no two systems have one name, no two containers of a system have one
name, and each edit on the way that failed left the model as it was. -/
theorem construction_keeps_rules (edits : List Edit) (h : ∀ edit ∈ edits, edit.Guarded) :
    let m := performAll {} edits
    m.validate = .ok () ∧
    (m.softwareSystems.map (·.name)).Nodup ∧
    (∀ s ∈ m.softwareSystems, (s.containers.map (·.name)).Nodup) ∧
    (∀ before edit after e, edits = before ++ edit :: after →
      ((performAll {} before).perform edit).2 = .error e →
      ((performAll {} before).perform edit).1 = performAll {} before) := by
  intro m
  have hm : m.WellFormed := WellFormed.empty.performAll h
  refine ⟨?_, hm.names, fun s hs => (hm.softwareSystems s hs).names, ?_⟩
  · rw [validate_eq_ok_iff]
    exact fun s hs => ⟨(hm.softwareSystems s hs).name, (hm.softwareSystems s hs).containers⟩
  · intro before edit after e _ he
    exact perform_atomic edit _ e he

/-- A system added twice and a primary type written as a supporting type are refused, and so is a
component whose primary type came to support another. -/
theorem construction_keeps_rules_refused :
    let built := ({ name := "C", primaryType := "p.C" } : Component).addSupportingTypes ["p.H"]
    let edits : List Edit := [
      .addSoftwareSystem "Bank" "", .addSoftwareSystem "Bank" "", .addContainer "Bank" "Api" "" "",
      .addComponent "Bank" "Api" "A" "p.A", .insertComponent "Bank" "Api" built,
      .assign "Bank" "Api" "A" ["p.C"] .replace, .assign "Bank" "Api" "A" ["p.A", "p.H"] .append,
      .addComponent "Bank" "Api" "H" "p.H", .clearSupportingTypes "Bank" "Api" "C"]
    (∀ edit ∈ edits, edit.Guarded) ∧
      (performAll {} edits).components.map (fun k => (k.name, k.supportingTypes.toList)) =
        [("A", ["p.H"]), ("C", [])] ∧
      (performAll {} edits).validate = .ok () := by
  intro built edits
  have hbuilt : built.Built := .add _ (.new _ _)
  have hguarded : ∀ edit ∈ edits, edit.Guarded := by
    simpa only [edits, List.forall_mem_cons, Edit.Guarded, true_and, List.not_mem_nil, false_imp_iff,
      implies_true, and_true] using hbuilt
  exact ⟨hguarded, by decide, (construction_keeps_rules edits hguarded).1⟩

end Model

end ComponentSupport
