import ComponentSupport.Analysis.Analyzer
import ComponentSupport.Proofs.ContainerRule

/-!
# Components are analysed apart

The analysis of a container looks at all components first and writes the results afterwards, one
write after the other into a container that the writes before have changed. This module proves that
the components do not notice each other.

* `Reported` — what the outcome of a component may be, by what the analyzer answers for its view in
  the container as it was.
* `Component.settled` — what becomes of a component, by its outcome alone.
* `Analyzer.analysis_isolates` — the outcomes are those, and the container afterwards has just these
  components; it keeps its rule, and a model is analysed container by container.

The writes meet the same conflicts as the first one would, since a write changes no name and no
primary type (`Container.conflict?_congr`), and each finds its own component, since names differ.
-/

namespace ComponentSupport

/-- What becomes of a component: a failure leaves it as it is; a set that was found takes the place
of its supporting types or joins them, without the primary type. -/
def Component.settled (k : Component) (mode : Assignment) :
    Except AnalysisError NameSet → Component
  | .error _ => k
  | .ok types =>
    match mode with
    | .replace => { k with supportingTypes := types.erase k.primaryType }
    | .append => { k with supportingTypes := k.supportingTypes ∪ types.erase k.primaryType }

/-- Nothing but the supporting types is settled. -/
theorem Component.settled_eq (k : Component) (mode : Assignment)
    (result : Except AnalysisError NameSet) :
    k.settled mode result =
      { k with supportingTypes := (k.settled mode result).supportingTypes } := by
  cases result with
  | error e => rfl
  | ok types => cases mode <;> rfl

/-- What does not look at supporting types does not see a component settled among others. -/
theorem Component.map_settled {β : Type} (g : Component → β)
    (hg : ∀ k types, g { k with supportingTypes := types } = g k) (before : List Component)
    (k : Component) (after : List Component) (mode : Assignment)
    (result : Except AnalysisError NameSet) :
    (before ++ k.settled mode result :: after).map g = (before ++ k :: after).map g := by
  rw [List.map_append, List.map_cons, List.map_append, List.map_cons, Component.settled_eq, hg]

theorem Component.settled_ok (k : Component) (mode : Assignment) (types : NameSet) :
    k.settled mode (.ok types) = k.assign types.toList mode := by
  rw [Component.assign_eq_combine, NameSet.ofList_toList]
  cases mode <;> rfl

/-- The result that a component of a container may have in the report: the failure of the analyzer
for its view, or the set that the analyzer finds, or, if that set has the primary type of another
component in it, a failure of the model about it. -/
inductive Reported (a : Analyzer) (c : Container) (k : Component) :
    Except AnalysisError NameSet → Prop where
  | failed {e : AnalysisError} :
      a.find (ComponentView.inContainer c k) = .error e → Reported a c k (.error e)
  | found {types : NameSet} :
      a.find (ComponentView.inContainer c k) = .ok types →
      (∀ other ∈ c.components, other ≠ k → other.primaryType ∉ types) → Reported a c k (.ok types)
  | refused {types : NameSet} {other : Component} :
      a.find (ComponentView.inContainer c k) = .ok types →
      other ∈ c.components → other ≠ k → other.primaryType ∈ types →
      Reported a c k
        (.error (.model (.supportingTypeConflict other.primaryType k.name other.name)))

/-- The result of a component after its container had a say in it. -/
def Container.judge (c : Container) (name : String) :
    Except AnalysisError NameSet → Except AnalysisError NameSet
  | .error e => .error e
  | .ok types =>
    match c.conflict? name types.toList with
    | some (type, owner) => .error (.model (.supportingTypeConflict type name owner))
    | none => .ok types

theorem Container.judge_congr {c d : Container}
    (h : d.components.map (fun k => (k.name, k.primaryType)) =
      c.components.map fun k => (k.name, k.primaryType)) (name : String)
    (result : Except AnalysisError NameSet) : d.judge name result = c.judge name result := by
  cases result with
  | error e => rfl
  | ok types =>
    simp only [judge]
    rw [conflict?_congr h]

theorem Container.Valid.reported {c : Container} (h : c.Valid) (a : Analyzer) {k : Component}
    (hk : k ∈ c.components) :
    Reported a c k (c.judge k.name (a.find (ComponentView.inContainer c k))) := by
  cases hfind : a.find (ComponentView.inContainer c k) with
  | error e => exact .failed hfind
  | ok types =>
    unfold Container.judge
    simp only
    cases hconflict : c.conflict? k.name types.toList with
    | none =>
      refine .found hfind fun other ho hne => ?_
      have hname : other.name ≠ k.name := fun heq => hne (h.eq_of_name_eq ho hk heq)
      exact (c.conflict?_eq_none_iff k.name types.toList).1 hconflict other ho hname
    | some conflict =>
      obtain ⟨type, owner⟩ := conflict
      obtain ⟨other, ho, hname, rfl, rfl, hmem⟩ := Container.conflict?_eq_some hconflict
      exact .refused hfind ho (fun heq => hname (congrArg Component.name heq)) hmem

namespace Analyzer

/-! ### Writing the results -/

/-- One write: the component with that name is settled by what its container says of the result, and
the others stay. -/
theorem write_eq (a : Analyzer) {c : Container} {before after : List Component} {k : Component}
    (hc : c.components = before ++ k :: after) (hbefore : ∀ other ∈ before, other.name ≠ k.name)
    (result : Except AnalysisError NameSet) :
    a.write c k.name result =
      ({ c with
          components := before ++ k.settled a.settings.assignment (c.judge k.name result) :: after },
        c.judge k.name result) := by
  have hsame : c = { c with components := before ++ k :: after } := by rw [← hc]
  cases result with
  | error e => exact Prod.ext hsame rfl
  | ok types =>
    simp only [write, Container.assign, Container.judge]
    cases hconflict : c.conflict? k.name types.toList with
    | some conflict => exact Prod.ext hsame rfl
    | none =>
      have hfound : c.component? k.name = some k :=
        Container.component?_eq_some_iff.2 ⟨rfl, before, after, hc, hbefore⟩
      rw [hfound]
      simp only
      rw [Container.update_of_components_eq hc hbefore rfl, Component.settled_ok]

/-- All writes: each component is settled by what the container says at the start. -/
theorem writeAll_eq (a : Analyzer) (c : Container) (view : Component → ComponentView)
    (hname : ∀ k, (view k).name = k.name) {cur : Container} {done todo : List Component}
    (hcur : cur.components = done ++ todo) (hnames : (cur.components.map (·.name)).Nodup)
    (hpairs : cur.components.map (fun k => (k.name, k.primaryType)) =
      c.components.map fun k => (k.name, k.primaryType)) :
    a.writeAll cur (todo.map fun k => (view k, a.find (view k))) =
      ({ cur with
          components := done ++ todo.map fun k =>
            k.settled a.settings.assignment (c.judge k.name (a.find (view k))) },
        todo.map fun k =>
          { component := k.name
            primaryType := (view k).primaryType
            result := c.judge k.name (a.find (view k)) }) := by
  induction todo generalizing cur done with
  | nil =>
    have hsame : cur = { cur with components := done ++ [] } := by rw [← hcur]
    exact Prod.ext hsame rfl
  | cons k rest ih =>
    have hbefore : ∀ other ∈ done, other.name ≠ k.name := by
      rw [hcur, List.map_append, List.map_cons, List.nodup_append] at hnames
      exact fun other ho => hnames.2.2 _ (List.mem_map_of_mem ho) _ List.mem_cons_self
    have hwrite := a.write_eq hcur hbefore (a.find (view k))
    rw [Container.judge_congr hpairs] at hwrite
    -- the writes that follow look at nothing that this one settles
    have hnames' := Component.map_settled (·.name) (fun _ _ => rfl) done k rest
      a.settings.assignment (c.judge k.name (a.find (view k)))
    have hpairs' := Component.map_settled (fun k => (k.name, k.primaryType)) (fun _ _ => rfl) done k
      rest a.settings.assignment (c.judge k.name (a.find (view k)))
    rw [← hcur, List.append_cons] at hnames' hpairs'
    rw [List.map_cons, List.map_cons, List.map_cons, writeAll, hname, hwrite]
    simp only
    rw [List.append_cons, ih rfl (hnames' ▸ hnames) (hpairs'.trans hpairs)]
    simp only [List.append_assoc, List.singleton_append]

/-- The writes keep the rule of the container, whatever is written. -/
theorem valid_writeAll (a : Analyzer) {c : Container} (h : c.Valid)
    (results : List (ComponentView × Except AnalysisError NameSet)) :
    (a.writeAll c results).1.Valid := by
  induction results generalizing c with
  | nil => exact h
  | cons entry rest ih =>
    obtain ⟨v, result⟩ := entry
    rw [writeAll]
    refine ih ?_
    cases result with
    | error e => exact h
    | ok types =>
      have hassign := h.assign v.name types.toList a.settings.assignment
      simp only [write]
      split
      · next written heq => rwa [heq] at hassign
      · next written e heq => rwa [heq] at hassign

/-! ### The analysis of a container -/

/-- The analysis of a container whose components have names of their own, component by component. -/
theorem analyzeContainer_eq (a : Analyzer) {c : Container}
    (hnames : (c.components.map (·.name)).Nodup) :
    a.analyzeContainer c =
      ({ c with
          components := c.components.map fun k =>
            k.settled a.settings.assignment
              (c.judge k.name (a.find (ComponentView.inContainer c k))) },
        { container := c.name
          outcomes := c.components.map fun k =>
            { component := k.name
              primaryType := k.primaryType
              result := c.judge k.name (a.find (ComponentView.inContainer c k)) } }) := by
  unfold analyzeContainer ComponentView.allInContainer
  simp only [List.map_map, Function.comp_def]
  have hwrites := a.writeAll_eq c (ComponentView.inContainer c) (fun _ => rfl)
    (List.nil_append c.components).symm hnames rfl
  rw [hwrites]
  rfl

/-- **Components are analysed apart**: each component of a container that keeps its rule has an
outcome of its own, by what the analyzer answers for its view in the container as it was; its
supporting types afterwards are settled by that outcome, nothing else is changed, and the rule still
holds. A model is analysed container by container. -/
theorem analysis_isolates (a : Analyzer) :
    (∀ c : Container, c.validate = .ok () →
      (a.analyzeContainer c).2.container = c.name ∧
      List.Forall₂
        (fun k o => o.component = k.name ∧ o.primaryType = k.primaryType ∧ Reported a c k o.result)
        c.components (a.analyzeContainer c).2.outcomes ∧
      (a.analyzeContainer c).1 =
        { c with
          components := List.zipWith (fun k o => k.settled a.settings.assignment o.result)
            c.components (a.analyzeContainer c).2.outcomes } ∧
      (a.analyzeContainer c).1.validate = .ok ()) ∧
    ∀ m : Model,
      (a.analyzeModel m).1 =
        { softwareSystems := m.softwareSystems.map fun s =>
            { s with containers := s.containers.map fun c => (a.analyzeContainer c).1 } } ∧
      (a.analyzeModel m).2.containers = m.containers.map fun c => (a.analyzeContainer c).2 := by
  constructor
  · intro c hc
    have hvalid := c.validate_eq_ok_iff.1 hc
    have hkept := a.valid_writeAll hvalid
      ((ComponentView.allInContainer c).map fun v => (v, a.find v))
    refine ⟨rfl, ?_, ?_, (Container.validate_eq_ok_iff _).2 hkept⟩
    · rw [a.analyzeContainer_eq hvalid.names, List.forall₂_map_right_iff, List.forall₂_same]
      exact fun k hk => ⟨rfl, rfl, hvalid.reported a hk⟩
    · rw [a.analyzeContainer_eq hvalid.names, List.zipWith_map_right, List.zipWith_self]
  · intro m
    constructor
    · simp only [analyzeModel, analyzeSystem, List.map_map, Function.comp_def]
    · simp only [analyzeModel, analyzeSystem, List.map_map, Function.comp_def, List.flatMap_map,
        Model.containers, List.map_flatMap]

/-- Of three components one is refused the primary type of another, one has its own left out, and
one has a strategy that fails. -/
theorem analysis_isolates_refused :
    let a : Analyzer :=
      { graph := .ofFacts .dot []
        strategies := [.external "Fixed" (fun _ v =>
          if v.name = "A" then .ok (.ofList ["p.B", "p.X"])
          else if v.name = "B" then .ok (.ofList ["p.B", "p.Y"])
          else .error (.notConfigured "Fixed")) none] }
    let c : Container :=
      { name := "Api"
        components := [
          { name := "A", primaryType := "p.A", supportingTypes := .ofList ["p.Old"] },
          { name := "B", primaryType := "p.B", supportingTypes := .ofList ["p.Old"] },
          { name := "C", primaryType := "p.C", supportingTypes := .ofList ["p.Old"] }] }
    c.validate = .ok () ∧
      (a.analyzeContainer c).1.components.map (·.supportingTypes.toList) =
        [["p.Old"], ["p.Y"], ["p.Old"]] ∧
      (a.analyzeContainer c).1.validate = .ok () := by
  intro a c
  have hc : c.validate = .ok () := by decide
  exact ⟨hc, by decide, (a.analysis_isolates.1 c hc).2.2.2⟩

end Analyzer

end ComponentSupport
