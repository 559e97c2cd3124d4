import ComponentSupport.Proofs.Results
import ComponentSupport.Proofs.Siblings

/-!
# Trees of strategies and their type graph

A strategy is put together from below: a node is made, it may be given a type graph before it goes
to its parent, a composite takes in children before or after it was given one, and the whole tree may
be given another graph at any time. Every kind of node keeps its graph in a place of its own and hands
it down in a way of its own, so nothing in the type of trees says that the nodes of one tree have one
graph. `Assembly` writes such a course of steps down, and `Assembly.strategy` is the tree it leads
to.

The main theorem, `Assembly.bound_throughout`, says that no course of steps leaves a node behind: a
node that says it has a graph has it in common with every node below it. So a tree fails for want of a
graph exactly when its root has none, and a graph that is given to the root makes the tree what it
would be if no other had ever been given (`Assembly.bind_strategy`).

The invariant is `Strategy.Coherent`. A node that is made has no graph, or that of what it filters;
giving a graph reaches every node (`Strategy.graph?_of_partOf_bind`); and a composite that has a graph
gives it to a child that joins it.
-/

namespace ComponentSupport

namespace Strategy

/-! ### Trees -/

/-- A property of trees of strategies holds of each if it holds of a tree whenever it holds of those
right below its root. -/
@[elab_as_elim]
theorem tree_induction {motive : Strategy → Prop}
    (referenced : ∀ reach graph, motive (.referenced reach graph))
    (samePackage : ∀ reach scope graph, motive (.samePackage reach scope graph))
    (packageMembers : ∀ scope graph, motive (.packageMembers scope graph))
    (matching : ∀ inner matcher, motive inner → motive (.matching inner matcher))
    (explicit : ∀ inner included excluded graph, (∀ s ∈ inner, motive s) →
      motive (.explicit inner included excluded graph))
    (composite : ∀ children graph, (∀ s ∈ children, motive s) → motive (.composite children graph))
    (external : ∀ name answer graph, motive (.external name answer graph)) :
    ∀ s, motive s
  | .referenced reach graph => referenced reach graph
  | .samePackage reach scope graph => samePackage reach scope graph
  | .packageMembers scope graph => packageMembers scope graph
  | .matching inner matcher =>
    matching inner matcher
      (tree_induction referenced samePackage packageMembers matching explicit composite external
        inner)
  | .explicit inner included excluded graph =>
    explicit inner included excluded graph fun s _ =>
      tree_induction referenced samePackage packageMembers matching explicit composite external s
  | .composite children graph =>
    composite children graph fun s _ =>
      tree_induction referenced samePackage packageMembers matching explicit composite external s
  | .external name answer graph => external name answer graph

/-- The first strategy is the second, or a node of the tree below it. -/
inductive PartOf (n : Strategy) : Strategy → Prop where
  | self : PartOf n n
  | matching {inner : Strategy} (matcher : Matcher) :
      PartOf n inner → PartOf n (.matching inner matcher)
  | explicit {inner : Strategy} (included excluded : NameSet) (graph : Option TypeGraph) :
      PartOf n inner → PartOf n (.explicit (some inner) included excluded graph)
  | composite {child : Strategy} {children : List Strategy} (graph : Option TypeGraph) :
      child ∈ children → PartOf n child → PartOf n (.composite children graph)

theorem PartOf.trans {m n s : Strategy} (hm : m.PartOf n) (hn : n.PartOf s) : m.PartOf s := by
  induction hn with
  | self => exact hm
  | matching matcher _ ih => exact .matching matcher ih
  | explicit included excluded graph _ ih => exact .explicit included excluded graph ih
  | composite graph hchild _ ih => exact .composite graph hchild ih

/-! ### Giving a graph -/

theorem bindAll_eq_map (g : TypeGraph) (strategies : List Strategy) :
    bindAll g strategies = strategies.map (bind g) := by
  induction strategies with
  | nil => rfl
  | cons s rest ih => rw [bindAll, ih, List.map_cons]

/-- A graph that is given reaches every node of the tree. -/
theorem graph?_of_partOf_bind {g : TypeGraph} {s n : Strategy} (h : n.PartOf (s.bind g)) :
    n.graph? = some g := by
  induction s using tree_induction generalizing n with
  | referenced reach graph =>
    cases h with
    | self => rfl
  | samePackage reach scope graph =>
    cases h with
    | self => rfl
  | packageMembers scope graph =>
    cases h with
    | self => rfl
  | matching inner matcher ih =>
    rw [bind] at h
    cases h with
    | self => exact ih (n := inner.bind g) .self
    | matching _ hn => exact ih hn
  | explicit inner included excluded graph ih =>
    cases inner with
    | none =>
      cases h with
      | self => rfl
    | some inner =>
      rw [bind] at h
      cases h with
      | self => rfl
      | explicit _ _ _ hn => exact ih inner rfl hn
  | composite children graph ih =>
    rw [bind] at h
    cases h with
    | self => rfl
    | composite _ hchild hn =>
      rw [bindAll_eq_map] at hchild
      obtain ⟨child, hmem, rfl⟩ := List.mem_map.1 hchild
      exact ih child hmem hn
  | external name answer graph =>
    cases h with
    | self => rfl

theorem graph?_bind (g : TypeGraph) (s : Strategy) : (s.bind g).graph? = some g :=
  graph?_of_partOf_bind .self

/-- The graph that is given last counts, at every node. -/
theorem bind_bind (g g' : TypeGraph) (s : Strategy) : (s.bind g).bind g' = s.bind g' := by
  induction s using tree_induction with
  | referenced reach graph => rfl
  | samePackage reach scope graph => rfl
  | packageMembers scope graph => rfl
  | matching inner matcher ih => rw [bind, bind, ih, bind]
  | explicit inner included excluded graph ih =>
    cases inner with
    | none => rfl
    | some inner => rw [bind, bind, ih inner rfl, bind]
  | composite children graph ih =>
    rw [bind, bind, bind, bindAll_eq_map, bindAll_eq_map, bindAll_eq_map, List.map_map]
    exact congrArg (composite · (some g')) (List.map_congr_left ih)
  | external name answer graph => rfl

/-- A child that joins a composite gets the graph that the composite gets, if not that which it
had. -/
theorem bind_addChild (g : TypeGraph) (s child : Strategy) :
    (s.addChild child).bind g = (s.bind g).addChild (child.bind g) := by
  cases s with
  | composite children graph =>
    have hadopt : (child.adopt graph).bind g = child.bind g := by
      cases graph with
      | none => rfl
      | some old => exact bind_bind old g child
    rw [addChild, bind, bind, addChild, bindAll_eq_map, bindAll_eq_map, List.map_append,
      List.map_singleton, hadopt, adopt, bind_bind]
  | explicit inner included excluded graph => cases inner <;> rfl
  | _ => rfl

/-! ### One graph below every node -/

/-- Wherever a node has a graph, the nodes below have the same. -/
def Coherent (s : Strategy) : Prop :=
  ∀ n : Strategy, n.PartOf s → ∀ g, n.graph? = some g →
    ∀ m : Strategy, m.PartOf n → m.graph? = some g

/-- A node with nothing below it has nothing to agree with. -/
theorem Coherent.of_leaf {s : Strategy} (h : ∀ n : Strategy, n.PartOf s → n = s) : s.Coherent := by
  intro n hn g hg m hm
  rw [h n hn] at hg hm
  rw [h m hm, hg]

theorem Coherent.bind (g : TypeGraph) (s : Strategy) : (s.bind g).Coherent := by
  intro n hn g' hg' m hm
  have hg : n.graph? = some g := graph?_of_partOf_bind hn
  rw [graph?_of_partOf_bind (hm.trans hn), ← hg, hg']

/-- A filter speaks for what it filters. -/
theorem Coherent.matching {inner : Strategy} (h : inner.Coherent) (matcher : Matcher) :
    (Strategy.matching inner matcher).Coherent := by
  intro n hn g hg m hm
  cases hn with
  | self =>
    cases hm with
    | self => exact hg
    | matching _ hm => exact h inner .self g hg m hm
  | matching _ hn => exact h n hn g hg m hm

theorem Coherent.explicit {inner : Option Strategy} (h : ∀ s ∈ inner, s.Coherent)
    (included excluded : NameSet) : (Strategy.explicit inner included excluded none).Coherent := by
  intro n hn g hg m hm
  cases hn with
  | self => cases hg
  | explicit _ _ _ hn => exact h _ rfl n hn g hg m hm

/-- A composite without a graph asks nothing of its children. -/
theorem Coherent.composite {children : List Strategy} (h : ∀ s ∈ children, s.Coherent) :
    (Strategy.composite children none).Coherent := by
  intro n hn g hg m hm
  cases hn with
  | self => cases hg
  | composite _ hchild hn => exact h _ hchild n hn g hg m hm

theorem Coherent.of_child {children : List Strategy} {graph : Option TypeGraph}
    (h : (Strategy.composite children graph).Coherent) {s : Strategy} (hs : s ∈ children) :
    s.Coherent :=
  fun n hn => h n (.composite graph hs hn)

theorem Coherent.addChild {s child : Strategy} (hs : s.Coherent) (hchild : child.Coherent) :
    (s.addChild child).Coherent := by
  cases s with
  | composite children graph =>
    cases graph with
    | none =>
      refine .composite fun s hmem => ?_
      rcases List.mem_append.1 hmem with hmem | hmem
      · exact hs.of_child hmem
      · rw [List.mem_singleton.1 hmem]
        exact hchild
    | some g =>
      -- all old children have the graph of the composite, and the new one is given it
      have hbound : ∀ n s : Strategy, s ∈ children ++ [child.bind g] → n.PartOf s →
          n.graph? = some g := by
        intro n s hmem hn
        rcases List.mem_append.1 hmem with hmem | hmem
        · exact hs _ .self g rfl n (.composite _ hmem hn)
        · rw [List.mem_singleton.1 hmem] at hn
          exact graph?_of_partOf_bind hn
      intro n hn g' hg' m hm
      cases hn with
      | self =>
        obtain rfl : g = g' := Option.some.inj hg'
        cases hm with
        | self => rfl
        | composite _ hmem hm => exact hbound m _ hmem hm
      | composite _ hmem hn =>
        rw [hbound m _ hmem (hm.trans hn), ← hbound n _ hmem hn, hg']
  | _ => exact hs

/-- A tree without any graph has none after a child without any joined. -/
theorem graph?_addChild {s child n : Strategy} (hs : ∀ n : Strategy, n.PartOf s → n.graph? = none)
    (hchild : ∀ n : Strategy, n.PartOf child → n.graph? = none) (h : n.PartOf (s.addChild child)) :
    n.graph? = none := by
  cases s with
  | composite children graph =>
    obtain rfl : graph = none := hs _ .self
    cases h with
    | self => rfl
    | composite _ hmem hn =>
      rcases List.mem_append.1 hmem with hmem | hmem
      · exact hs n (.composite _ hmem hn)
      · rw [List.mem_singleton.1 hmem] at hn
        exact hchild n hn
  | _ => exact hs n h

/-! ### Strategies of this library -/

theorem Own.bind {s : Strategy} (h : s.Own) (g : TypeGraph) : (s.bind g).Own := by
  induction h with
  | referenced reach graph => exact .referenced reach (some g)
  | samePackage reach scope graph => exact .samePackage reach scope (some g)
  | packageMembers scope graph => exact .packageMembers scope (some g)
  | matching matcher _ ih => exact .matching matcher ih
  | @explicit inner included excluded graph _ ih =>
    cases inner with
    | none => exact .explicit included excluded (some g) fun s hs => nomatch hs
    | some inner =>
      refine .explicit included excluded (some g) fun s hs => ?_
      obtain rfl := Option.some.inj hs
      exact ih inner rfl
  | @composite children graph _ ih =>
    rw [Strategy.bind, bindAll_eq_map]
    refine .composite (some g) fun s hs => ?_
    obtain ⟨child, hmem, rfl⟩ := List.mem_map.1 hs
    exact ih child hmem

theorem Own.addChild {s child : Strategy} (hs : s.Own) (hchild : child.Own) :
    (s.addChild child).Own := by
  cases hs with
  | composite graph hall =>
    refine .composite graph fun s hmem => ?_
    rcases List.mem_append.1 hmem with hmem | hmem
    · exact hall s hmem
    · rw [List.mem_singleton.1 hmem]
      cases graph with
      | none => exact hchild
      | some g => exact hchild.bind g
  | referenced reach graph => exact .referenced reach graph
  | samePackage reach scope graph => exact .samePackage reach scope graph
  | packageMembers scope graph => exact .packageMembers scope graph
  | matching matcher hinner => exact .matching matcher hinner
  | explicit included excluded graph hinner => exact .explicit included excluded graph hinner

/-! ### Failing for want of a graph -/

/-- A root without a graph fails, whatever lies below, and the failure names it. -/
theorem find_of_graph?_eq_none {s : Strategy} (hs : s.Own) (h : s.graph? = none)
    (v : ComponentView) : s.find v = .error (.notConfigured s.name) := by
  cases hs with
  | referenced reach graph =>
    obtain rfl : graph = none := h
    rfl
  | samePackage reach scope graph =>
    obtain rfl : graph = none := h
    rfl
  | packageMembers scope graph =>
    obtain rfl : graph = none := h
    rfl
  | @matching inner matcher _ =>
    have hinner : inner.graph? = none := h
    rw [find, hinner]
    rfl
  | @explicit inner included excluded graph _ =>
    obtain rfl : graph = none := h
    cases inner <;> rfl
  | composite graph _ =>
    obtain rfl : graph = none := h
    rfl

end Strategy

namespace TypeGraph

theorem kind_of_packageOfView {g : TypeGraph} {v : ComponentView} {e : AnalysisError}
    (h : g.packageOfView v = .error e) : e.kind = .malformedTypeName := by
  unfold packageOfView at h
  cases hname : g.packageOf v.primaryType with
  | ok package =>
    rw [hname] at h
    cases h
  | error fault =>
    rw [hname] at h
    obtain rfl : AnalysisError.ofMalformedName fault = e := Except.error.inj h
    rfl

theorem kind_of_referred {g : TypeGraph} {reach : Reach} {v : ComponentView} {e : AnalysisError}
    (h : g.referred reach v = .error e) : e.kind = .traversalLimitExceeded := by
  unfold referred at h
  split at h
  · rw [map_eq_error_iff] at h
    unfold reachable at h
    split at h
    · cases h
    · obtain rfl := Except.error.inj h
      rfl
  · cases h

theorem kind_of_referredMembers {g : TypeGraph} {reach : Reach} {scope : PackageScope}
    {v : ComponentView} {e : AnalysisError} (h : g.referredMembers reach scope v = .error e) :
    e.kind = .malformedTypeName ∨ e.kind = .traversalLimitExceeded := by
  unfold referredMembers at h
  simp only [bind_eq_error_iff, pure_eq_error_iff, and_false, exists_false, or_false] at h
  rcases h with h | ⟨package, -, h⟩
  · exact Or.inl (kind_of_packageOfView h)
  · exact Or.inr (kind_of_referred h)

end TypeGraph

namespace Strategy

/-! ### What a node with a graph finds -/

theorem find_referenced (reach : Reach) (g : TypeGraph) (v : ComponentView) :
    (referenced reach (some g)).find v = g.referred reach v := by
  simp only [find]
  rfl

theorem find_samePackage (reach : Reach) (scope : PackageScope) (g : TypeGraph) (v : ComponentView) :
    (samePackage reach scope (some g)).find v = g.referredMembers reach scope v := by
  simp only [find]
  rfl

theorem find_packageMembers (scope : PackageScope) (g : TypeGraph) (v : ComponentView) :
    (packageMembers scope (some g)).find v = g.members scope v := by
  simp only [find]
  rfl

theorem find_matching {inner : Strategy} {g : TypeGraph} (h : inner.graph? = some g)
    (matcher : Matcher) (v : ComponentView) :
    (matching inner matcher).find v =
      (inner.find v).map fun types => types.filter fun type => matcher.accepts g type := by
  rw [find, h]
  cases inner.find v <;> rfl

theorem find_explicit_none (included excluded : NameSet) (g : TypeGraph) (v : ComponentView) :
    (explicit none included excluded (some g)).find v =
      .ok (v.retainSupporting (included \ excluded)) := by
  simp only [find]
  rfl

theorem find_explicit_some (inner : Strategy) (included excluded : NameSet) (g : TypeGraph)
    (v : ComponentView) :
    (explicit (some inner) included excluded (some g)).find v =
      (inner.find v).map fun types => v.retainSupporting ((types ∪ included) \ excluded) := by
  rw [find]
  cases inner.find v <;> rfl

theorem find_composite (children : List Strategy) (g : TypeGraph) (v : ComponentView) :
    (composite children (some g)).find v = findAll v children := by
  simp only [find]
  rfl

/-- A failure of a list of strategies is that of one of them. -/
theorem exists_of_findAll_eq_error {strategies : List Strategy} {v : ComponentView}
    {e : AnalysisError} (h : findAll v strategies = .error e) :
    ∃ s ∈ strategies, s.find v = .error e := by
  induction strategies with
  | nil => cases h
  | cons s rest ih =>
    simp only [findAll, bind_eq_error_iff, pure_eq_error_iff, and_false, exists_false,
      or_false] at h
    rcases h with h | ⟨types, -, h⟩
    · exact ⟨s, List.mem_cons_self, h⟩
    · obtain ⟨s', hs', he⟩ := ih h
      exact ⟨s', List.mem_cons_of_mem s hs', he⟩

/-- A failure of a tree is that of one of its nodes: it has no graph, or its graph cannot answer. -/
theorem Own.kind_cases {s : Strategy} (hs : s.Own) {v : ComponentView} {e : AnalysisError}
    (he : s.find v = .error e) :
    (∃ n : Strategy, n.PartOf s ∧ n.graph? = none ∧ e.kind = .notConfigured) ∨
      e.kind = .malformedTypeName ∨ e.kind = .traversalLimitExceeded := by
  -- a node without a graph fails in one way, whatever kind of node it is
  have hnone : ∀ {s : Strategy} {e : AnalysisError}, s.Own → s.graph? = none →
      s.find v = .error e →
        ∃ n : Strategy, n.PartOf s ∧ n.graph? = none ∧ e.kind = .notConfigured := by
    intro s e hs hgraph he
    obtain rfl := Except.error.inj ((find_of_graph?_eq_none hs hgraph v).symm.trans he)
    exact ⟨s, .self, hgraph, rfl⟩
  induction hs generalizing e with
  | referenced reach graph =>
    cases graph with
    | none => exact Or.inl (hnone (.referenced reach none) rfl he)
    | some g =>
      rw [find_referenced] at he
      exact Or.inr (Or.inr (TypeGraph.kind_of_referred he))
  | samePackage reach scope graph =>
    cases graph with
    | none => exact Or.inl (hnone (.samePackage reach scope none) rfl he)
    | some g =>
      rw [find_samePackage] at he
      exact Or.inr (TypeGraph.kind_of_referredMembers he)
  | packageMembers scope graph =>
    cases graph with
    | none => exact Or.inl (hnone (.packageMembers scope none) rfl he)
    | some g =>
      rw [find_packageMembers, TypeGraph.members, map_eq_error_iff] at he
      exact Or.inr (Or.inl (TypeGraph.kind_of_packageOfView he))
  | @matching inner matcher hinner ih =>
    cases hgraph : inner.graph? with
    | none => exact Or.inl (hnone (.matching matcher hinner) hgraph he)
    | some g =>
      rw [find_matching hgraph, map_eq_error_iff] at he
      refine (ih he).imp_left ?_
      rintro ⟨n, hn, h⟩
      exact ⟨n, .matching matcher hn, h⟩
  | @explicit inner included excluded graph hinner ih =>
    cases graph with
    | none => exact Or.inl (hnone (.explicit included excluded none hinner) rfl he)
    | some g =>
      cases inner with
      | none =>
        rw [find_explicit_none] at he
        cases he
      | some inner =>
        rw [find_explicit_some, map_eq_error_iff] at he
        refine (ih inner rfl he).imp_left ?_
        rintro ⟨n, hn, h⟩
        exact ⟨n, .explicit included excluded _ hn, h⟩
  | composite graph hchildren ih =>
    cases graph with
    | none => exact Or.inl (hnone (.composite none hchildren) rfl he)
    | some g =>
      rw [find_composite] at he
      obtain ⟨s, hs, he⟩ := exists_of_findAll_eq_error he
      refine (ih s hs he).imp_left ?_
      rintro ⟨n, hn, h⟩
      exact ⟨n, .composite _ hs hn, h⟩

/-- A tree whose nodes all have a graph fails for other reasons only. -/
theorem kind_ne_notConfigured {s : Strategy} (hs : s.Own)
    (h : ∀ n : Strategy, n.PartOf s → ∃ g, n.graph? = some g) {v : ComponentView}
    {e : AnalysisError} (he : s.find v = .error e) : e.kind ≠ .notConfigured := by
  rcases hs.kind_cases he with ⟨n, hn, hnone, -⟩ | hkind | hkind
  · obtain ⟨g, hg⟩ := h n hn
    cases hnone.symm.trans hg
  · rw [hkind]
    decide
  · rw [hkind]
    decide

end Strategy

/-! ### Courses of steps -/

/-- How a tree of strategies is put together. A node is made from the ones right below it, and has no
graph at first; then it may be given a graph, any number of times, and a composite may take in
children, in any order. -/
inductive Assembly where
  | referenced (reach : Reach)
  | samePackage (reach : Reach) (scope : PackageScope)
  | packageMembers (scope : PackageScope)
  | matching (inner : Assembly) (matcher : Matcher)
  | explicit (included excluded : NameSet)
  | explicitOn (inner : Assembly) (included excluded : NameSet)
  | composite
  /-- A composite takes in a child. -/
  | add (parent child : Assembly)
  /-- What was put together so far is given a graph. -/
  | bind (a : Assembly) (g : TypeGraph)

namespace Assembly

/-- The tree that the steps lead to. -/
def strategy : Assembly → Strategy
  | referenced reach => .referenced reach none
  | samePackage reach scope => .samePackage reach scope none
  | packageMembers scope => .packageMembers scope none
  | matching inner matcher => .matching inner.strategy matcher
  | explicit included excluded => .explicit none included excluded none
  | explicitOn inner included excluded => .explicit (some inner.strategy) included excluded none
  | composite => .composite [] none
  | add parent child => parent.strategy.addChild child.strategy
  | bind a g => a.strategy.bind g

/-- The same steps, but for those that give a graph. -/
def unbound : Assembly → Assembly
  | matching inner matcher => matching inner.unbound matcher
  | explicitOn inner included excluded => explicitOn inner.unbound included excluded
  | add parent child => add parent.unbound child.unbound
  | bind a _ => a.unbound
  | a => a

/-- Every step leads to a tree whose nodes have one graph. -/
theorem coherent_strategy (a : Assembly) : a.strategy.Coherent := by
  induction a with
  | referenced reach => exact .of_leaf fun n hn => by cases hn; rfl
  | samePackage reach scope => exact .of_leaf fun n hn => by cases hn; rfl
  | packageMembers scope => exact .of_leaf fun n hn => by cases hn; rfl
  | matching inner matcher ih => exact ih.matching matcher
  | explicit included excluded => exact .of_leaf fun n hn => by cases hn; rfl
  | explicitOn inner included excluded ih =>
    refine .explicit (fun s hs => ?_) included excluded
    obtain rfl := Option.some.inj hs
    exact ih
  | composite => exact .composite fun s hs => absurd hs List.not_mem_nil
  | add parent child ihp ihc => exact ihp.addChild ihc
  | bind a g ih => exact .bind g a.strategy

/-- The steps make strategies of this library only. -/
theorem own_strategy (a : Assembly) : a.strategy.Own := by
  induction a with
  | referenced reach => exact .referenced reach none
  | samePackage reach scope => exact .samePackage reach scope none
  | packageMembers scope => exact .packageMembers scope none
  | matching inner matcher ih => exact .matching matcher ih
  | explicit included excluded => exact .explicit included excluded none fun s hs => nomatch hs
  | explicitOn inner included excluded ih =>
    refine .explicit included excluded none fun s hs => ?_
    obtain rfl := Option.some.inj hs
    exact ih
  | composite => exact .composite none fun s hs => absurd hs List.not_mem_nil
  | add parent child ihp ihc => exact ihp.addChild ihc
  | bind a g ih => exact ih.bind g

/-- Steps that give no graph lead to a tree without any. -/
theorem graph?_unbound {a : Assembly} {n : Strategy} (h : n.PartOf a.unbound.strategy) :
    n.graph? = none := by
  induction a generalizing n with
  | referenced reach => cases h; rfl
  | samePackage reach scope => cases h; rfl
  | packageMembers scope => cases h; rfl
  | matching inner matcher ih =>
    cases h with
    | self => exact ih (n := inner.unbound.strategy) .self
    | matching _ hn => exact ih hn
  | explicit included excluded => cases h; rfl
  | explicitOn inner included excluded ih =>
    cases h with
    | self => rfl
    | explicit _ _ _ hn => exact ih hn
  | composite =>
    cases h with
    | self => rfl
    | composite _ hmem _ => exact absurd hmem List.not_mem_nil
  | add parent child ihp ihc =>
    change n.PartOf (parent.unbound.strategy.addChild child.unbound.strategy) at h
    exact Strategy.graph?_addChild (fun n hn => ihp hn) (fun n hn => ihc hn) h
  | bind a g ih => exact ih h

/-- What the root is given last is all that counts. -/
theorem bind_strategy (a : Assembly) (g : TypeGraph) :
    a.strategy.bind g = a.unbound.strategy.bind g := by
  induction a with
  | matching inner matcher ih =>
    show Strategy.matching _ _ = Strategy.matching _ _
    rw [ih]
  | explicitOn inner included excluded ih =>
    show Strategy.explicit _ _ _ _ = Strategy.explicit _ _ _ _
    rw [ih]
  | add parent child ihp ihc =>
    show (Strategy.addChild _ _).bind g = (Strategy.addChild _ _).bind g
    rw [Strategy.bind_addChild, Strategy.bind_addChild, ihp, ihc]
  | bind a old ih =>
    show (a.strategy.bind old).bind g = _
    rw [Strategy.bind_bind, ih]
    rfl
  | _ => rfl

/-- **One graph a tree**, whatever the steps that put the tree together. A node that has a graph has
it in common with every node below. The tree fails for want of a graph exactly when its root has
none, and the failure then names the root. A graph that is given to the root reaches every node, and
makes the tree answer every view as if it were the first to be given to any of them. -/
theorem bound_throughout (a : Assembly) :
    let s := a.strategy
    (∀ n : Strategy, n.PartOf s → ∀ g, n.graph? = some g →
      ∀ m : Strategy, m.PartOf n → m.graph? = some g) ∧
    (∀ v, ((∃ e, s.find v = .error e ∧ e.kind = .notConfigured) ↔ s.graph? = none) ∧
      (s.graph? = none → s.find v = .error (.notConfigured s.name))) ∧
    (∀ n : Strategy, n.PartOf a.unbound.strategy → n.graph? = none) ∧
    (∀ g, ∀ n : Strategy, n.PartOf (s.bind g) → n.graph? = some g) ∧
    ∀ g v, (s.bind g).find v = (a.unbound.strategy.bind g).find v := by
  intro s
  have hs : s.Own := a.own_strategy
  have hcoherent : s.Coherent := a.coherent_strategy
  refine ⟨hcoherent, fun v => ⟨⟨?_, fun hnone => ?_⟩, fun hnone => ?_⟩,
    fun n => graph?_unbound, fun g n => Strategy.graph?_of_partOf_bind, fun g v => ?_⟩
  · rintro ⟨e, he, hkind⟩
    cases hgraph : s.graph? with
    | none => rfl
    | some g =>
      have hbound : ∀ n : Strategy, n.PartOf s → ∃ g, n.graph? = some g :=
        fun n hn => ⟨g, hcoherent s .self g hgraph n hn⟩
      exact absurd hkind (Strategy.kind_ne_notConfigured hs hbound he)
  · exact ⟨_, Strategy.find_of_graph?_eq_none hs hnone v, rfl⟩
  · exact Strategy.find_of_graph?_eq_none hs hnone v
  · rw [a.bind_strategy g]

end Assembly

end ComponentSupport
