import ComponentSupport.Proofs.Binding
import ComponentSupport.Proofs.ReferencedTypes

/-!
# The package filter is an intersection

Three strategies look at a type graph themselves. One follows the references of the primary type, one
takes the members of its package out of all known types, and the third follows references and then
keeps the members of the package. The last two decide membership apart from each other, and leave out
what may not support the component at different times: the second before its answer, the third by
way of the references that it follows.

The main theorem, `Strategy.samePackage_meets`, says that the third finds what both others find. A
failure about the package comes first, then one about the references.

What is found along references is known to the graph, if every type that another refers to is
(`TypeGraph.Closed`). Recording facts makes it so (`TypeGraph.closed_ofFacts`); in a graph that is
not closed, the third strategy would find a member of the package that the second does not know.
-/

namespace ComponentSupport

namespace TypeGraph

/-! ### Types that are referred to are known -/

/-- Whatever a type refers to is known. -/
def Closed (g : TypeGraph) : Prop :=
  ∀ s t, t ∈ g.referencedTypes s → t ∈ g.allTypes

theorem closed_ofFacts (convention : Convention) (facts : List Fact) :
    (ofFacts convention facts).Closed := by
  intro s t hst
  have h : (ofFacts convention facts).Represents _ _ _ :=
    TypeGraphOn.represents_ofFacts convention facts
  rw [h.mem_referencedTypes] at hst
  rw [h.mem_allTypes]
  exact (h.mem_names_of_mem_pairs hst).2

/-- What is found along references is what may support the component of some types that references
lead to. -/
theorem referred_eq_ok {g : TypeGraph} {reach : Reach} {v : ComponentView} {found : NameSet}
    (h : g.referred reach v = .ok found) :
    ∃ types, found = v.retainSupporting types ∧
      ∀ t ∈ types, Relation.TransGen (fun a b => b ∈ g.referencedTypes a) v.primaryType t := by
  unfold referred at h
  split at h
  · obtain ⟨types, htypes, rfl⟩ := map_eq_ok_iff.1 h
    refine ⟨types, rfl, fun t ht => ?_⟩
    rcases g.reachable_cases v.primaryType reach.limit with ⟨-, all, hall, hmem⟩ | ⟨-, herror⟩
    · obtain rfl : all = types := Except.ok.inj (hall.symm.trans htypes)
      exact (hmem t).1 ht
    · cases herror.symm.trans htypes
  · exact ⟨_, (Except.ok.inj h).symm, fun t ht => .single ht⟩

/-- In a closed graph the types found along references are known, and nothing is among them that may
not support the component. -/
theorem Closed.mem_referred {g : TypeGraph} (hg : g.Closed) {reach : Reach} {v : ComponentView}
    {found : NameSet} (h : g.referred reach v = .ok found) {t : String} (ht : t ∈ found) :
    t ∈ v.retainSupporting g.allTypes := by
  obtain ⟨types, rfl, hreached⟩ := referred_eq_ok h
  rw [ComponentView.mem_retainSupporting] at ht ⊢
  refine ⟨?_, ht.2⟩
  -- the last reference on the way makes the type known
  cases hreached t ht.1 with
  | single hstep => exact hg _ t hstep
  | tail _ hstep => exact hg _ t hstep

/-! ### Two filters -/

/-- In a closed graph, the members of a package that references lead to are found by looking for the
members of the package first and then, among these, for what references lead to. -/
theorem Closed.referredMembers_eq {g : TypeGraph} (hg : g.Closed) (reach : Reach)
    (scope : PackageScope) (v : ComponentView) :
    g.referredMembers reach scope v = do
      let members ← g.members scope v
      let types ← g.referred reach v
      return types.filter (· ∈ members) := by
  unfold referredMembers members
  cases hpackage : g.packageOfView v with
  | error e => rfl
  | ok package =>
    cases hreferred : g.referred reach v with
    | error e => rfl
    | ok types =>
      refine congrArg Except.ok (NameSet.ext fun t => ?_)
      simp only [NameSet.mem_filter, ComponentView.mem_retainSupporting, decide_eq_true_eq]
      refine and_congr_right fun ht => ?_
      have hkept := ComponentView.mem_retainSupporting.1 (hg.mem_referred hreferred ht)
      exact ⟨fun hmember => ⟨⟨hkept.1, hmember⟩, hkept.2⟩, fun h => h.1.2⟩

/-- The members of a package are not found only where the primary type lies in none. -/
theorem members_eq_error {g : TypeGraph} {scope : PackageScope} {v : ComponentView}
    {e : AnalysisError} (h : g.members scope v = .error e) :
    ∃ reason, e = .malformedTypeName v.primaryType reason := by
  rw [members, map_eq_error_iff, packageOfView, TypeGraphOn.packageOf, Convention.packageOf,
    Convention.split] at h
  cases hfault : g.convention.fault? v.primaryType with
  | none =>
    rw [hfault] at h
    cases h
  | some fault =>
    rw [hfault] at h
    exact ⟨fault.reason, (Except.error.inj h).symm⟩

end TypeGraph

namespace Strategy

theorem find_bind_packageMembers (g : TypeGraph) (scope : PackageScope) (old : Option TypeGraph)
    (v : ComponentView) : ((packageMembers scope old).bind g).find v = g.members scope v := by
  rw [bind, find_packageMembers]

theorem find_bind_samePackage (g : TypeGraph) (reach : Reach) (scope : PackageScope)
    (old : Option TypeGraph) (v : ComponentView) :
    ((samePackage reach scope old).bind g).find v = g.referredMembers reach scope v := by
  rw [bind, find_samePackage]

/-- **The package filter** in the graph of any list of facts, for any view, reach and scope. Where
references can be followed and the package has a name, it finds just the types that are found along
references and are found in the package too. Where the primary type lies in no package, it fails with
the failure of the strategy for packages, which is about that name; and where only the references
cannot be followed, with the failure of the strategy for references. -/
theorem samePackage_meets (convention : Convention) (facts : List Fact) (reach : Reach)
    (scope : PackageScope) (old old' old'' : Option TypeGraph) (v : ComponentView) :
    let g := TypeGraph.ofFacts convention facts
    let alongReferences := ((referenced reach old).bind g).find v
    let inPackage := ((packageMembers scope old').bind g).find v
    let both := ((samePackage reach scope old'').bind g).find v
    (∀ types members, alongReferences = .ok types → inPackage = .ok members →
      ∃ found, both = .ok found ∧ ∀ t, t ∈ found ↔ t ∈ types ∧ t ∈ members) ∧
    (∀ e, inPackage = .error e →
      both = .error e ∧ ∃ reason, e = .malformedTypeName v.primaryType reason) ∧
    (∀ members e, inPackage = .ok members → alongReferences = .error e → both = .error e) := by
  intro g alongReferences inPackage both
  have hreferences : alongReferences = g.referred reach v := find_bind_referenced g reach old v
  have hpackage : inPackage = g.members scope v := find_bind_packageMembers g scope old' v
  have hboth : both = do
      let members ← inPackage
      let types ← alongReferences
      return types.filter (· ∈ members) := by
    rw [hreferences, hpackage]
    exact (find_bind_samePackage g reach scope old'' v).trans
      ((TypeGraph.closed_ofFacts convention facts).referredMembers_eq reach scope v)
  refine ⟨fun types members htypes hmembers => ?_, fun e he => ⟨?_, ?_⟩,
    fun members e hmembers he => ?_⟩
  · rw [htypes, hmembers] at hboth
    refine ⟨_, hboth, fun t => ?_⟩
    rw [NameSet.mem_filter, decide_eq_true_eq]
  · rw [he] at hboth
    exact hboth
  · rw [hpackage] at he
    exact TypeGraph.members_eq_error he
  · rw [hmembers, he] at hboth
    exact hboth

end Strategy

end ComponentSupport
