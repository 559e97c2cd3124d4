import ComponentSupport.Proofs.Binding
import ComponentSupport.Proofs.Isolation

/-!
# What is reported is what is written

An analysis first computes a set for each component and then writes the sets, and a write may refuse
its set. Whether it does is decided by the names and primary types of the components alone
(`Container.Alike`), which no write changes. So every write of an analysis can be judged by the
container as it was before the first one (`Analyzer.writeAll_snd`), also in a container that breaks
its rule.

The views that the sets are computed for know the same names and primary types. A tree of the
strategies of this library finds nothing that its view excludes (`Strategy.Own.not_excluded`), and
what a write refuses is excluded by the view (`Container.conflict?_eq_none_of_view`). The main
theorem, `Analyzer.report_is_written`, puts the two together: with such strategies no write is
refused, every outcome is the answer of the analyzer, and where names are distinct the set that is
reported is the set that is written.
-/

namespace ComponentSupport

namespace Container

/-! ### What the writes depend on -/

/-- The names and primary types of the components, in order. -/
def identities (c : Container) : List (String × String) :=
  c.components.map fun k => (k.name, k.primaryType)

/-- Two containers differ at most in what is said about them and in supporting types. -/
structure Alike (c d : Container) : Prop where
  name : d.name = c.name
  identities : d.identities = c.identities

theorem Alike.refl (c : Container) : c.Alike c := ⟨rfl, rfl⟩

theorem Alike.trans {c d e : Container} (h : c.Alike d) (h' : d.Alike e) : c.Alike e :=
  ⟨h'.name.trans h.name, h'.identities.trans h.identities⟩

theorem alike_assign (c : Container) (name : String) (types : List String) (mode : Assignment) :
    c.Alike (c.assign name types mode).1 := by
  rcases c.assign_cases name types mode with ⟨-, -, h⟩ | ⟨e, h⟩
  · rw [h]
    refine ⟨rfl, map_updateFirst (fun k => ?_) c.components⟩
    rw [Component.name_assign, Component.primaryType_assign]
  · rw [h]
    exact .refl c

theorem isSome_component? (c : Container) (name : String) :
    (c.component? name).isSome = c.identities.any (·.1 == name) := by
  rw [identities, List.any_map, component?, List.isSome_find?]
  rfl

/-- Alike containers take and refuse the same. -/
theorem Alike.assign_snd {c d : Container} (h : c.Alike d) (name : String) (types : List String)
    (mode : Assignment) : (d.assign name types mode).2 = (c.assign name types mode).2 := by
  have hconflict : d.conflict? name types = c.conflict? name types :=
    conflict?_congr h.identities name types
  have hfound : (d.component? name).isSome = (c.component? name).isSome := by
    rw [isSome_component?, isSome_component?, h.identities]
  unfold assign
  rw [hconflict]
  cases c.conflict? name types with
  | some conflict => rfl
  | none =>
    cases hc : c.component? name with
    | none =>
      rw [hc, Option.isSome_none, Option.isSome_eq_false_iff, Option.isNone_iff_eq_none] at hfound
      rw [hfound, h.name]
    | some k =>
      rw [hc, Option.isSome_some, Option.isSome_iff_exists] at hfound
      obtain ⟨k', hk'⟩ := hfound
      rw [hk']

/-- The views of a container know its components by name and primary type only. -/
theorem Alike.allInContainer {c d : Container} (h : c.Alike d) :
    ComponentView.allInContainer d = ComponentView.allInContainer c := by
  have hsiblings : ∀ name, d.siblingPrimaryTypes name = c.siblingPrimaryTypes name := by
    have hpairs : ∀ (e : Container) (name : String), e.siblingPrimaryTypes name =
        .ofList ((e.identities.filter (·.1 != name)).map (·.2)) := by
      intro e name
      rw [siblingPrimaryTypes, siblings, Container.identities, List.filter_map, List.map_map]
      rfl
    intro name
    rw [hpairs, hpairs, h.identities]
  have hviews : ∀ e : Container, ComponentView.allInContainer e =
      e.identities.map fun pair => ComponentView.withSiblings
        { name := pair.1, primaryType := pair.2 } (e.siblingPrimaryTypes pair.1).toList := by
    intro e
    rw [ComponentView.allInContainer, Container.identities, List.map_map]
    rfl
  rw [hviews, hviews, h.identities]
  simp only [hsiblings]

end Container

namespace Analyzer

/-! ### Writing into a container that changes -/

/-- A write of a set is an assignment, and a refusal is a failure of the model. -/
theorem write_ok (a : Analyzer) (c : Container) (name : String) (types : NameSet) :
    a.write c name (.ok types) =
      ((c.assign name types.toList a.settings.assignment).1,
        ((c.assign name types.toList a.settings.assignment).2.mapError .model).map
          fun _ => types) := by
  unfold write
  simp only
  split
  · next h => rw [h]; rfl
  · next h => rw [h]; rfl

theorem write_alike (a : Analyzer) (c : Container) (name : String)
    (result : Except AnalysisError NameSet) : c.Alike (a.write c name result).1 := by
  cases result with
  | error e => exact .refl c
  | ok types =>
    rw [write_ok]
    exact c.alike_assign name types.toList a.settings.assignment

/-- Alike containers judge a result alike. -/
theorem write_snd_of_alike (a : Analyzer) {c d : Container} (h : c.Alike d) (name : String)
    (result : Except AnalysisError NameSet) :
    (a.write d name result).2 = (a.write c name result).2 := by
  cases result with
  | error e => rfl
  | ok types => rw [write_ok, write_ok, h.assign_snd]

theorem writeAll_fst (a : Analyzer) (c : Container)
    (results : List (ComponentView × Except AnalysisError NameSet)) :
    (a.writeAll c results).1 =
      results.foldl (fun cur entry => (a.write cur entry.1.name entry.2).1) c := by
  induction results generalizing c with
  | nil => rfl
  | cons entry rest ih =>
    rw [writeAll, List.foldl_cons, ← ih]

theorem writeAll_alike (a : Analyzer) (c : Container)
    (results : List (ComponentView × Except AnalysisError NameSet)) :
    c.Alike (a.writeAll c results).1 := by
  induction results generalizing c with
  | nil => exact .refl c
  | cons entry rest ih =>
    rw [writeAll]
    exact (a.write_alike c entry.1.name entry.2).trans (ih _)

/-- Every write is judged by the container as it was before the first one. -/
theorem writeAll_snd (a : Analyzer) {c cur : Container} (h : c.Alike cur)
    (results : List (ComponentView × Except AnalysisError NameSet)) :
    (a.writeAll cur results).2 = results.map fun entry =>
      { component := entry.1.name
        primaryType := entry.1.primaryType
        result := (a.write c entry.1.name entry.2).2 } := by
  induction results generalizing cur with
  | nil => rfl
  | cons entry rest ih =>
    rw [writeAll, List.map_cons]
    simp only
    rw [ih (h.trans (a.write_alike cur entry.1.name entry.2)), a.write_snd_of_alike h]

end Analyzer

/-! ### What a view excludes -/

theorem ComponentView.mem_siblings_inContainer {c : Container} {k : Component} {type : String} :
    type ∈ (ComponentView.inContainer c k).siblings ↔
      type ≠ k.primaryType ∧
        ∃ other ∈ c.components, other.name ≠ k.name ∧ other.primaryType = type := by
  simp only [inContainer, withSiblings, NameSet.mem_insertAll, List.mem_filter, bne_iff_ne,
    NameSet.not_mem_empty, or_false, ← NameSet.mem_def, Container.siblingPrimaryTypes,
    NameSet.mem_ofList, List.mem_map, Container.siblings]
  constructor
  · rintro ⟨⟨other, ⟨hmem, hname⟩, rfl⟩, hne⟩
    exact ⟨hne, other, hmem, hname, rfl⟩
  · rintro ⟨hne, other, hmem, hname, rfl⟩
    exact ⟨⟨other, ⟨hmem, hname⟩, rfl⟩, hne⟩

/-- What is not excluded by the view of a component is written without a conflict. -/
theorem Container.conflict?_eq_none_of_view {c : Container} {k : Component} {types : NameSet}
    (h : ∀ type ∈ types, (ComponentView.inContainer c k).excludes type = false) :
    c.conflict? k.name types.toList = none := by
  rw [conflict?_eq_none_iff]
  intro other ho hname hmem
  have hexcludes := h other.primaryType hmem
  simp only [ComponentView.excludes, Bool.or_eq_false_iff, beq_eq_false_iff_ne,
    decide_eq_false_iff_not] at hexcludes
  exact hexcludes.2 (ComponentView.mem_siblings_inContainer.2 ⟨hexcludes.1, other, ho, hname, rfl⟩)

namespace Strategy

/-- No strategy of this library finds what the view excludes. -/
theorem Own.not_excluded {s : Strategy} (h : s.Own) {v : ComponentView} {found : NameSet}
    (hfound : s.find v = .ok found) {type : String} (htype : type ∈ found) :
    v.excludes type = false := by
  have hprimary : type ≠ v.primaryType := fun heq =>
    primaryType_not_mem_find h hfound (heq ▸ htype)
  rw [find_eq_alone h v, map_eq_ok_iff] at hfound
  obtain ⟨all, -, rfl⟩ := hfound
  have hsibling : type ∉ v.siblings := (NameSet.mem_sdiff.1 htype).2
  simp [ComponentView.excludes, hprimary, hsibling]

/-- No strategy of this library fails in the name of the model. -/
theorem Own.kind_ne_model {s : Strategy} (h : s.Own) {v : ComponentView} {e : AnalysisError}
    (he : s.find v = .error e) : e.kind ≠ .model := by
  rcases h.kind_cases he with ⟨-, -, -, hkind⟩ | hkind | hkind <;> rw [hkind] <;> decide

end Strategy

namespace Analyzer

/-! ### The answers of an analyzer are written as they are -/

/-- An analyzer answers as one composite of its strategies does. -/
theorem find_eq_composite (a : Analyzer) (v : ComponentView) :
    a.find v = (Strategy.composite a.strategies (some a.graph)).find v :=
  (Strategy.find_composite a.strategies a.graph v).symm

section Own

variable {a : Analyzer} (h : ∀ s ∈ a.strategies, s.Own)
include h

theorem kind_ne_model {v : ComponentView} {e : AnalysisError} (he : a.find v = .error e) :
    e.kind ≠ .model := by
  rw [find_eq_composite] at he
  exact (Strategy.Own.composite (some a.graph) h).kind_ne_model he

theorem conflict?_of_find {c : Container} {k : Component} {types : NameSet}
    (hfind : a.find (.inContainer c k) = .ok types) :
    c.conflict? k.name types.toList = none := by
  rw [find_eq_composite] at hfind
  exact Container.conflict?_eq_none_of_view fun type htype =>
    (Strategy.Own.composite (some a.graph) h).not_excluded hfind htype

/-- The answer for a component is never refused. -/
theorem write_snd_of_find {c : Container} {k : Component} (hk : k ∈ c.components) :
    (a.write c k.name (a.find (.inContainer c k))).2 = a.find (.inContainer c k) := by
  cases hfind : a.find (.inContainer c k) with
  | error e => rfl
  | ok types =>
    have hfound : (c.component? k.name).isSome := by
      rw [Container.component?, List.find?_isSome]
      exact ⟨k, hk, beq_self_eq_true k.name⟩
    obtain ⟨k', hk'⟩ := Option.isSome_iff_exists.1 hfound
    rw [write_ok, Container.assign, conflict?_of_find h hfind, hk']
    rfl

/-- The outcomes of a container are the answers for its components. -/
theorem outcomes_analyzeContainer (c : Container) :
    (a.analyzeContainer c).2.outcomes = c.components.map fun k =>
      { component := k.name
        primaryType := k.primaryType
        result := a.find (.inContainer c k) } := by
  simp only [analyzeContainer]
  rw [a.writeAll_snd (.refl c), ComponentView.allInContainer, List.map_map, List.map_map]
  refine List.map_congr_left fun k hk => ?_
  exact congrArg (ComponentOutcome.mk k.name k.primaryType) (write_snd_of_find h hk)

end Own

end Analyzer

/-- The supporting types that a component has after a set was found for it. -/
def Assignment.written (old found : NameSet) : Assignment → NameSet
  | .replace => found
  | .append => old ∪ found

/-- A set without the primary type is written as it is. -/
theorem Component.settled_of_not_mem {k : Component} {types : NameSet}
    (h : k.primaryType ∉ types) (mode : Assignment) :
    k.settled mode (.ok types) =
      { k with supportingTypes := mode.written k.supportingTypes types } := by
  have herase : types.erase k.primaryType = types := by
    ext x
    rw [NameSet.mem_erase, and_iff_left_iff_imp]
    exact fun hx heq => h (heq ▸ hx)
  cases mode <;> rw [settled, herase] <;> rfl

namespace Analyzer

/-- **What is reported is what is written**, in any container, whether it keeps its rule or not, if
the strategies are trees of the strategies of this library. No outcome is a failure of the model:
the writes refuse nothing, and every outcome is the answer for its component. Where the components
have names of their own, a component with a set as its outcome has just that set afterwards, or that
set and what it had before, and is otherwise unchanged. -/
theorem report_is_written (a : Analyzer) (h : ∀ s ∈ a.strategies, s.Own) (c : Container) :
    let after := (a.analyzeContainer c).1
    let outcomes := (a.analyzeContainer c).2.outcomes
    (∀ o ∈ outcomes, ∀ e, o.result = .error e → e.kind ≠ .model) ∧
    (outcomes = c.components.map fun k =>
      { component := k.name
        primaryType := k.primaryType
        result := a.find (.inContainer c k) }) ∧
    ((c.components.map (·.name)).Nodup → ∀ (i : Nat) (k : Component) (o : ComponentOutcome),
      c.components[i]? = some k → outcomes[i]? = some o →
        ∀ types, o.result = .ok types → after.components[i]? =
          some { k with
            supportingTypes := a.settings.assignment.written k.supportingTypes types }) := by
  intro after outcomes
  have houtcomes : outcomes = c.components.map fun k =>
      { component := k.name
        primaryType := k.primaryType
        result := a.find (.inContainer c k) } := outcomes_analyzeContainer h c
  refine ⟨fun o ho e he => ?_, houtcomes, fun hnames i k o hk ho types htypes => ?_⟩
  · rw [houtcomes] at ho
    obtain ⟨k, -, rfl⟩ := List.mem_map.1 ho
    exact kind_ne_model h he
  · rw [houtcomes, List.getElem?_map, hk, Option.map_some, Option.some.injEq] at ho
    obtain rfl := ho
    have hfind : a.find (.inContainer c k) = .ok types := htypes
    have hjudge : c.judge k.name (.ok types) = .ok types := by
      rw [Container.judge, conflict?_of_find h hfind]
    have hprimary : k.primaryType ∉ types := by
      rw [find_eq_composite] at hfind
      exact Strategy.primaryType_not_mem_find (.composite (some a.graph) h) hfind
    show (a.analyzeContainer c).1.components[i]? = _
    rw [a.analyzeContainer_eq hnames, List.getElem?_map, hk, Option.map_some, hfind, hjudge,
      Component.settled_of_not_mem hprimary]

/-- A container that breaks its rule: two of its components have one primary type, which a list puts
in for the third, together with its own. -/
theorem report_is_written_shared :
    let g := TypeGraph.ofFacts .dot [.references "p.A" ["p.S", "p.C"]]
    let a : Analyzer :=
      { graph := g
        strategies := [.explicit (some (.referenced { indirect := false } (some g)))
          (.ofList ["p.A", "p.S", "p.X"]) ∅ (some g)]
        settings := { assignment := .append } }
    let c : Container :=
      { name := "Api"
        components := [
          { name := "A", primaryType := "p.A", supportingTypes := .ofList ["p.Old"] },
          { name := "S", primaryType := "p.S" },
          { name := "T", primaryType := "p.S" }] }
    (∀ s ∈ a.strategies, s.Own) ∧ c.validate ≠ .ok () ∧ (c.components.map (·.name)).Nodup ∧
      a.find (.inContainer c { name := "A", primaryType := "p.A" }) =
        .ok (.ofList ["p.C", "p.X"]) ∧
      (a.analyzeContainer c).1.components[0]? =
        some { name := "A", primaryType := "p.A"
               supportingTypes := .ofList ["p.C", "p.Old", "p.X"] } := by
  intro g a c
  have hown : ∀ s ∈ a.strategies, s.Own := by
    intro s hs
    obtain rfl := List.mem_singleton.1 hs
    refine .explicit _ _ _ fun s hs => ?_
    obtain rfl := Option.some.inj hs
    exact .referenced _ _
  have hnames : (c.components.map (·.name)).Nodup := by decide
  have hfind : a.find (.inContainer c { name := "A", primaryType := "p.A" }) =
      .ok (.ofList ["p.C", "p.X"]) := by decide
  obtain ⟨-, houtcomes, hwritten⟩ := report_is_written a hown c
  have hafter := hwritten hnames 0 _ _ rfl (by rw [houtcomes]; rfl) _ hfind
  have hunion : NameSet.ofList ["p.Old"] ∪ .ofList ["p.C", "p.X"] =
      .ofList ["p.C", "p.Old", "p.X"] := by decide
  exact ⟨hown, by decide, hnames, hfind, hunion ▸ hafter⟩

end Analyzer

end ComponentSupport
