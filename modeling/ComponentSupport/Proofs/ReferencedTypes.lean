import ComponentSupport.Proofs.RecordedFacts
import ComponentSupport.Proofs.Traversal
import ComponentSupport.Strategy.Find

/-!
# What following references finds

The types that the primary type of a component refers to, directly or over any number of other
types, are given by what was recorded: `Relation.TransGen (Recorded facts)`. The main theorem
`Strategy.find_referenced_recorded` says that the strategy finds just these, less the types that may
not support the component, unless they are more than its limit, and that it then finds nothing at
all. A sibling is left out of the answer and not of the way, since the recorded reach knows no
siblings; the primary type counts against the limit when references lead back to it.
-/

namespace ComponentSupport

namespace TypeGraph

/-- A traversal from the references of a type reaches what one or more references lead to. -/
theorem reached_iff_transGen (g : TypeGraph) (s t : String) :
    Traversal.Reached g.referencedTypes (g.referencedTypes s).toList t ↔
      Relation.TransGen (fun a b => b ∈ g.referencedTypes a) s t := by
  rw [Relation.TransGen.head'_iff]
  rfl

/-- The types reached are given whole, or not at all when they are more than the limit. -/
theorem reachable_cases (g : TypeGraph) (s : String) (limit : Nat) :
    let reached := {t | Relation.TransGen (fun a b => b ∈ g.referencedTypes a) s t}
    (reached.encard ≤ limit ∧
      ∃ types, g.reachable s limit = .ok types ∧ ∀ t, t ∈ types ↔ t ∈ reached) ∨
    (limit < reached.encard ∧
      g.reachable s limit = .error (.traversalLimitExceeded s limit)) := by
  intro reached
  have hreached : reached =
      {t | Traversal.Reached g.referencedTypes (g.referencedTypes s).toList t} :=
    Set.ext fun t => (g.reached_iff_transGen s t).symm
  rw [hreached]
  unfold reachable
  cases hrun : (Traversal.start (g.referencedTypes s).toList).run g.referencedTypes limit with
  | none => exact Or.inr ⟨(Traversal.run_eq_none_iff limit).1 hrun, rfl⟩
  | some last =>
    refine Or.inl ⟨not_lt.1 fun hlimit => ?_, _, rfl, Traversal.mem_visited_run hrun⟩
    rw [(Traversal.run_eq_none_iff limit).2 hlimit] at hrun
    cases hrun

end TypeGraph

namespace Strategy

/-- Following references, with a type graph at hand, is asking the graph. -/
theorem find_bind_referenced (g : TypeGraph) (reach : Reach) (old : Option TypeGraph)
    (v : ComponentView) : ((referenced reach old).bind g).find v = g.referred reach v := by
  simp only [bind, find]
  rfl

/-- **Following references**, in the graph of any list of facts and for any view. Over any number of
references the answer is a set exactly when no more types are reached than the limit allows, and then
all of them that may support the component; otherwise it is the failure about the primary type. Over
one reference it is always the set of the types referred to that may support the component. -/
theorem find_referenced_recorded (convention : Convention) (facts : List Fact)
    (old : Option TypeGraph) (limit : Nat) (v : ComponentView) :
    let g := TypeGraph.ofFacts convention facts
    let indirect := ((referenced { indirect := true, limit } old).bind g).find v
    let direct := ((referenced { indirect := false, limit } old).bind g).find v
    let reached := {t | Relation.TransGen (Recorded facts) v.primaryType t}
    ((∃ found, indirect = .ok found) ↔ reached.encard ≤ limit) ∧
    (∀ found, indirect = .ok found →
      ∀ t, t ∈ found ↔ t ∈ reached ∧ t ≠ v.primaryType ∧ t ∉ v.siblings) ∧
    ((∃ e, indirect = .error e ∧ e.kind = .traversalLimitExceeded ∧ e.subject = some v.primaryType) ↔
      limit < reached.encard) ∧
    (∃ found, direct = .ok found ∧
      ∀ t, t ∈ found ↔ Recorded facts v.primaryType t ∧ t ≠ v.primaryType ∧ t ∉ v.siblings) := by
  intro g indirect direct reached
  have hrefers : (fun a b => b ∈ g.referencedTypes a) = Recorded facts := by
    funext a b
    exact propext (TypeGraph.mem_referencedTypes_ofFacts convention facts a b)
  have hindirect : indirect = (g.reachable v.primaryType limit).map v.retainSupporting :=
    find_bind_referenced g _ old v
  have hdirect : direct = .ok (v.retainSupporting (g.referencedTypes v.primaryType)) :=
    find_bind_referenced g _ old v
  have hcases := g.reachable_cases v.primaryType limit
  rw [hrefers] at hcases
  rw [← and_assoc, ← and_assoc]
  refine ⟨?_, _, hdirect, fun t => ?_⟩
  · rcases hcases with ⟨hle, types, hok, htypes⟩ | ⟨hlt, herror⟩
    · rw [hok] at hindirect
      refine ⟨⟨iff_of_true ⟨_, hindirect⟩ hle, fun found hfound t => ?_⟩, ?_⟩
      · obtain rfl : v.retainSupporting types = found := Except.ok.inj (hindirect.symm.trans hfound)
        rw [ComponentView.mem_retainSupporting, htypes]
      · refine iff_of_false ?_ (not_lt.2 hle)
        rintro ⟨e, he, -⟩
        cases hindirect.symm.trans he
    · rw [herror] at hindirect
      refine ⟨⟨iff_of_false ?_ (not_le.2 hlt), fun found hfound => ?_⟩, ?_⟩
      · rintro ⟨found, hfound⟩
        cases hindirect.symm.trans hfound
      · cases hindirect.symm.trans hfound
      · exact iff_of_true ⟨_, hindirect, rfl, rfl⟩ hlt
  · rw [ComponentView.mem_retainSupporting, TypeGraph.mem_referencedTypes_ofFacts]

end Strategy

end ComponentSupport
