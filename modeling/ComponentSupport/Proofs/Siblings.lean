import ComponentSupport.Proofs.Results
import ComponentSupport.Strategy.Find
import Mathlib.Control.Monad.Basic
import Mathlib.Tactic.Tauto

/-!
# Siblings only filter

A strategy sees the siblings of a component in its view, and each kind of strategy takes them out at
a place of its own: the leaves at their end, the lists after what they put in, the others by way of
what lies below. This module compares two runs of one strategy, on a view and on the same view
without siblings (`ComponentView.alone`). In every tree of the strategies of this library
(`Strategy.Own`) the first run is the second with the siblings left out at the very end
(`Strategy.find_siblings`): siblings never decide whether the run fails, or how, or which other
types are found.

A strategy that is not of this library may do as it likes, so `Strategy.Own` leaves it out.
-/

namespace ComponentSupport

namespace ComponentView

/-- The view of the same component without siblings. -/
def alone (v : ComponentView) : ComponentView := { v with siblings := ∅ }

theorem retainSupporting_eq_alone (v : ComponentView) (types : NameSet) :
    v.retainSupporting types = v.alone.retainSupporting types \ v.siblings := by
  ext type
  simp [alone, and_assoc]

end ComponentView

theorem NameSet.filter_sdiff (s t : NameSet) (p : String → Bool) :
    (s \ t).filter p = s.filter p \ t := by
  ext x
  simp only [NameSet.mem_filter, NameSet.mem_sdiff]
  exact and_right_comm

namespace TypeGraph

/-! ### What the graph answers -/

theorem referred_eq_alone (g : TypeGraph) (reach : Reach) (v : ComponentView) :
    g.referred reach v = (g.referred reach v.alone).map (· \ v.siblings) := by
  unfold referred
  split
  · show (g.reachable v.primaryType reach.limit).map _ =
      ((g.reachable v.primaryType reach.limit).map _).map _
    cases g.reachable v.primaryType reach.limit with
    | error e => rfl
    | ok types => exact congrArg Except.ok (v.retainSupporting_eq_alone types)
  · exact congrArg Except.ok (v.retainSupporting_eq_alone _)

theorem members_eq_alone (g : TypeGraph) (scope : PackageScope) (v : ComponentView) :
    g.members scope v = (g.members scope v.alone).map (· \ v.siblings) := by
  unfold members
  show (g.packageOfView v).map _ = ((g.packageOfView v).map _).map _
  cases g.packageOfView v with
  | error e => rfl
  | ok package => exact congrArg Except.ok (v.retainSupporting_eq_alone _)

theorem referredMembers_eq_alone (g : TypeGraph) (reach : Reach) (scope : PackageScope)
    (v : ComponentView) :
    g.referredMembers reach scope v =
      (g.referredMembers reach scope v.alone).map (· \ v.siblings) := by
  unfold referredMembers
  rw [g.referred_eq_alone reach v]
  show (g.packageOfView v >>= _) = (g.packageOfView v >>= _).map _
  cases g.packageOfView v with
  | error e => rfl
  | ok package =>
    cases g.referred reach v.alone with
    | error e => rfl
    | ok types => exact congrArg Except.ok (types.filter_sdiff v.siblings _)

end TypeGraph

namespace Strategy

/-- A tree of strategies that are all of this library. -/
inductive Own : Strategy → Prop where
  | referenced (reach : Reach) (graph : Option TypeGraph) : Own (.referenced reach graph)
  | samePackage (reach : Reach) (scope : PackageScope) (graph : Option TypeGraph) :
      Own (.samePackage reach scope graph)
  | packageMembers (scope : PackageScope) (graph : Option TypeGraph) :
      Own (.packageMembers scope graph)
  | matching {inner : Strategy} (matcher : Matcher) : Own inner → Own (.matching inner matcher)
  | explicit {inner : Option Strategy} (included excluded : NameSet) (graph : Option TypeGraph) :
      (∀ s ∈ inner, Own s) → Own (.explicit inner included excluded graph)
  | composite {children : List Strategy} (graph : Option TypeGraph) :
      (∀ s ∈ children, Own s) → Own (.composite children graph)

/-! ### The same run without siblings -/

theorem findAll_eq_alone {strategies : List Strategy} {v : ComponentView}
    (h : ∀ s ∈ strategies, s.find v = (s.find v.alone).map (· \ v.siblings)) :
    findAll v strategies = (findAll v.alone strategies).map (· \ v.siblings) := by
  induction strategies with
  | nil =>
    refine congrArg Except.ok (NameSet.ext fun x => ?_)
    simp
  | cons s rest ih =>
    simp only [findAll]
    rw [h s List.mem_cons_self, ih fun s hs => h s (List.mem_cons_of_mem _ hs)]
    cases s.find v.alone with
    | error e => rfl
    | ok types =>
      cases findAll v.alone rest with
      | error e => rfl
      | ok more =>
        refine congrArg Except.ok (NameSet.ext fun x => ?_)
        simp only [NameSet.mem_union, NameSet.mem_sdiff]
        exact or_and_right.symm

/-- A run is the run without siblings, less the siblings. -/
theorem find_eq_alone {s : Strategy} (h : s.Own) (v : ComponentView) :
    s.find v = (s.find v.alone).map (· \ v.siblings) := by
  induction h with
  | referenced reach graph =>
    cases graph with
    | none => rfl
    | some g => exact g.referred_eq_alone reach v
  | samePackage reach scope graph =>
    cases graph with
    | none => rfl
    | some g => exact g.referredMembers_eq_alone reach scope v
  | packageMembers scope graph =>
    cases graph with
    | none => rfl
    | some g => exact g.members_eq_alone scope v
  | @matching inner matcher _ ih =>
    simp only [find]
    rw [ih]
    cases inner.graph? with
    | none => rfl
    | some g =>
      cases inner.find v.alone with
      | error e => rfl
      | ok types => exact congrArg Except.ok (types.filter_sdiff v.siblings _)
  | @explicit inner included excluded graph _ ih =>
    cases graph with
    | none => cases inner <;> rfl
    | some g =>
      cases inner with
      | none => exact congrArg Except.ok (v.retainSupporting_eq_alone _)
      | some inner =>
        simp only [find]
        rw [ih inner rfl]
        cases inner.find v.alone with
        | error e => rfl
        | ok types =>
          -- the siblings taken out below may come back by the list, so they are taken out again
          refine congrArg Except.ok (NameSet.ext fun x => ?_)
          simp only [ComponentView.mem_retainSupporting, NameSet.mem_sdiff, NameSet.mem_union,
            ComponentView.alone, NameSet.not_mem_empty, not_false_eq_true, and_true]
          tauto
  | composite graph _ ih =>
    cases graph with
    | none => rfl
    | some g => exact findAll_eq_alone ih

/-! ### The primary type -/

theorem primaryType_not_mem_referred {g : TypeGraph} {reach : Reach} {v : ComponentView}
    {found : NameSet} (h : g.referred reach v = .ok found) : v.primaryType ∉ found := by
  unfold TypeGraph.referred at h
  split at h
  · obtain ⟨types, -, rfl⟩ := map_eq_ok_iff.1 h
    simp
  · obtain rfl := Except.ok.inj h
    simp

theorem primaryType_not_mem_findAll {strategies : List Strategy} {v : ComponentView}
    (hall : ∀ s ∈ strategies, ∀ found, s.find v = .ok found → v.primaryType ∉ found)
    {found : NameSet} (h : findAll v strategies = .ok found) : v.primaryType ∉ found := by
  induction strategies generalizing found with
  | nil =>
    obtain rfl := Except.ok.inj h
    exact NameSet.not_mem_empty _
  | cons s rest ih =>
    simp only [findAll, bind_eq_ok_iff, pure_eq_ok_iff] at h
    obtain ⟨types, hs, more, hrest, rfl⟩ := h
    rw [NameSet.mem_union, not_or]
    exact ⟨hall s List.mem_cons_self types hs,
      ih (fun s hs => hall s (List.mem_cons_of_mem _ hs)) hrest⟩

/-- No strategy of this library finds the primary type. -/
theorem primaryType_not_mem_find {s : Strategy} (h : s.Own) {v : ComponentView} {found : NameSet}
    (hfound : s.find v = .ok found) : v.primaryType ∉ found := by
  induction h generalizing found with
  | referenced reach graph =>
    simp only [find, bind_eq_ok_iff] at hfound
    obtain ⟨g, -, hreferred⟩ := hfound
    exact primaryType_not_mem_referred hreferred
  | samePackage reach scope graph =>
    simp only [find, TypeGraph.referredMembers, bind_eq_ok_iff, pure_eq_ok_iff] at hfound
    obtain ⟨g, -, package, -, types, hreferred, rfl⟩ := hfound
    rw [NameSet.mem_filter]
    exact fun hmem => primaryType_not_mem_referred hreferred hmem.1
  | packageMembers scope graph =>
    simp only [find, TypeGraph.members, bind_eq_ok_iff, map_eq_ok_iff] at hfound
    obtain ⟨g, -, package, -, rfl⟩ := hfound
    simp
  | matching matcher _ ih =>
    simp only [find, bind_eq_ok_iff, pure_eq_ok_iff] at hfound
    obtain ⟨g, -, types, hinner, rfl⟩ := hfound
    rw [NameSet.mem_filter]
    exact fun hmem => ih hinner hmem.1
  | @explicit inner included excluded graph _ _ =>
    cases inner with
    | none =>
      simp only [find, bind_eq_ok_iff, pure_eq_ok_iff] at hfound
      obtain ⟨g, -, rfl⟩ := hfound
      simp
    | some inner =>
      simp only [find, bind_eq_ok_iff, pure_eq_ok_iff] at hfound
      obtain ⟨g, -, types, -, rfl⟩ := hfound
      simp
  | composite graph _ ih =>
    simp only [find, bind_eq_ok_iff] at hfound
    obtain ⟨g, -, hall⟩ := hfound
    exact primaryType_not_mem_findAll (fun s hs found hf => ih s hs hf) hall

/-- **Siblings only filter**: on a view with siblings, a tree of the strategies of this library fails
just when it fails on the view without them, and in the same way; and what it finds is what it finds
there less the siblings. The primary type it never finds. -/
theorem find_siblings {s : Strategy} (h : s.Own) (v : ComponentView) :
    (∀ e, s.find v = .error e ↔ s.find v.alone = .error e) ∧
    (∀ found, s.find v = .ok found ↔
      ∃ all, s.find v.alone = .ok all ∧ found = all \ v.siblings) ∧
    (∀ found, s.find v = .ok found → v.primaryType ∉ found) := by
  refine ⟨fun e => ?_, fun found => ?_, fun found => primaryType_not_mem_find h⟩
  · rw [find_eq_alone h v]
    cases s.find v.alone with
    | error e' => exact Iff.rfl
    | ok types => simp [Except.map]
  · rw [find_eq_alone h v, map_eq_ok_iff]
    simp only [eq_comm]

/-- A sibling that a list puts in below a composite is found without siblings, and not with them. -/
theorem find_siblings_put_in :
    let g := TypeGraph.ofFacts .dot [.references "p.A" ["p.S", "p.C"]]
    let s : Strategy := .composite
      [.explicit (some (.referenced { indirect := false } (some g))) (.ofList ["p.S"]) ∅ (some g)]
      (some g)
    let v : ComponentView := { name := "A", primaryType := "p.A", siblings := .ofList ["p.S"] }
    s.Own ∧ s.find v.alone = .ok (.ofList ["p.C", "p.S"]) ∧ s.find v = .ok (.ofList ["p.C"]) := by
  intro g s v
  have hown : s.Own := by
    refine .composite _ fun s hs => ?_
    obtain rfl := List.mem_singleton.1 hs
    refine .explicit _ _ _ fun s hs => ?_
    obtain rfl := Option.some.inj hs
    exact .referenced _ _
  have halone : s.find v.alone = .ok (.ofList ["p.C", "p.S"]) := by decide
  have hless : NameSet.ofList ["p.C"] = .ofList ["p.C", "p.S"] \ v.siblings := by decide
  exact ⟨hown, halone, ((find_siblings hown v).2.1 _).2 ⟨_, halone, hless⟩⟩

end Strategy

end ComponentSupport
