import ComponentSupport.Config.Analysis
import ComponentSupport.Proofs.Binding

/-!
# What a configuration means

A configuration is a tree of descriptions, and it is put to use in three stages: it is checked, the
strategies are made from it, without a type graph and with the limit of the configuration, and the
analyzer gives each of them its graph. This module says what a configuration means without any of the
three. `StrategyConfig.reading` is the set of types that a description stands for, by recursion on the
description, and `StrategyConfig.leaves` lists the strategies at its leaves, which alone look at a
type graph, from left to right.

The main theorem, `AnalysisConfig.buildAnalyzer_answers`, says that the analyzer of a configuration
that passes the check answers this meaning: the failure of the first leaf to fail, if any leaf fails,
and the set otherwise.

`Gathered` is the relation between the answer of a tree, the leaves of the tree, and the set that
it stands for. Filters keep it and unions join it, so a tree of descriptions has it if its leaves do
(`StrategyConfig.gathered_build`).
-/

namespace ComponentSupport

/-! ### The meaning of a description -/

/-- The types that a strategy finds for a component; none if it fails. -/
def Strategy.found (s : Strategy) (v : ComponentView) : Set String :=
  {t | ∃ types, s.find v = .ok types ∧ t ∈ types}

/-- The types that pass a configured test. -/
def MatcherConfig.Accepts (g : TypeGraph) (type : String) : MatcherConfig → Prop
  | nameSuffix suffix =>
    ∃ simple, g.convention.simpleName type = .ok simple ∧ suffix.toList <:+ simple.toList
  | regex pattern => ∃ p, Pattern.compile pattern = .ok p ∧ p.occursIn type = true
  | annotated a => a ∈ g.annotationsOf type

namespace StrategyConfig

mutual

/-- The types that a configured strategy stands for, in a type graph and for a component. -/
def reading (g : TypeGraph) (limit : Nat) (v : ComponentView) : StrategyConfig → Set String
  | referencedTypes indirect => (Strategy.referenced { indirect, limit } (some g)).found v
  | referencedTypesInSamePackage indirect scope =>
    (Strategy.samePackage { indirect, limit } scope (some g)).found v
  | allTypesInPackage => (Strategy.packageMembers .exact (some g)).found v
  | allTypesUnderPackage => (Strategy.packageMembers .subpackages (some g)).found v
  | matchingTypes inner matcher => {t | t ∈ inner.reading g limit v ∧ matcher.Accepts g t}
  | explicitTypes none included excluded =>
    {t | t ∈ included ∧ t ∉ excluded ∧ t ≠ v.primaryType ∧ t ∉ v.siblings}
  | explicitTypes (some inner) included excluded =>
    {t | (t ∈ inner.reading g limit v ∨ t ∈ included) ∧ t ∉ excluded ∧ t ≠ v.primaryType ∧
      t ∉ v.siblings}
  | composite children => readingAll g limit v children

/-- The types that any of several configured strategies stands for. -/
def readingAll (g : TypeGraph) (limit : Nat) (v : ComponentView) : List StrategyConfig → Set String
  | [] => ∅
  | s :: rest => s.reading g limit v ∪ readingAll g limit v rest

end

mutual

/-- The strategies at the leaves of a description, from left to right, each with the type graph and
with the limit. -/
def leaves (g : TypeGraph) (limit : Nat) : StrategyConfig → List Strategy
  | referencedTypes indirect => [.referenced { indirect, limit } (some g)]
  | referencedTypesInSamePackage indirect scope =>
    [.samePackage { indirect, limit } scope (some g)]
  | allTypesInPackage => [.packageMembers .exact (some g)]
  | allTypesUnderPackage => [.packageMembers .subpackages (some g)]
  | matchingTypes inner _ => inner.leaves g limit
  | explicitTypes none _ _ => []
  | explicitTypes (some inner) _ _ => inner.leaves g limit
  | composite children => leavesAll g limit children

/-- The strategies at the leaves of several descriptions. -/
def leavesAll (g : TypeGraph) (limit : Nat) : List StrategyConfig → List Strategy
  | [] => []
  | s :: rest => s.leaves g limit ++ leavesAll g limit rest

end

end StrategyConfig

/-- The types that a configuration stands for. -/
def AnalysisConfig.reading (c : AnalysisConfig) (g : TypeGraph) (v : ComponentView) : Set String :=
  StrategyConfig.readingAll g c.analysis.maxTraversalNodes v c.strategies

/-- The strategies at the leaves of a configuration. -/
def AnalysisConfig.leaves (c : AnalysisConfig) (g : TypeGraph) : List Strategy :=
  StrategyConfig.leavesAll g c.analysis.maxTraversalNodes c.strategies

/-! ### Answers that are put together -/

/-- An answer is put together from those of several strategies: the given types if none of the
strategies fails, and otherwise the failure of the first that does. -/
inductive Gathered (v : ComponentView) (leaves : List Strategy) (types : Set String) :
    Except AnalysisError NameSet → Prop where
  | found {all : NameSet} : (∀ s ∈ leaves, ∃ part, s.find v = .ok part) →
      (∀ t, t ∈ all ↔ t ∈ types) → Gathered v leaves types (.ok all)
  | failed {before : List Strategy} {s : Strategy} {after : List Strategy} {e : AnalysisError} :
      leaves = before ++ s :: after → (∀ s ∈ before, ∃ part, s.find v = .ok part) →
      s.find v = .error e → Gathered v leaves types (.error e)

namespace Gathered

variable {v : ComponentView} {leaves others : List Strategy} {types more : Set String}
  {x y : Except AnalysisError NameSet}

/-- The answer of one strategy. -/
theorem single (s : Strategy) : Gathered v [s] (s.found v) (s.find v) := by
  cases h : s.find v with
  | ok part =>
    refine .found (fun s' hs' => ?_) fun t => ?_
    · rw [List.mem_singleton.1 hs']
      exact ⟨part, h⟩
    · show t ∈ part ↔ ∃ types, s.find v = .ok types ∧ t ∈ types
      rw [h]
      exact ⟨fun ht => ⟨part, rfl, ht⟩, fun ⟨types, hpart, ht⟩ => Except.ok.inj hpart ▸ ht⟩
  | error e => exact .failed (List.nil_append [s]).symm (fun _ hs' => absurd hs' List.not_mem_nil) h

/-- A change of the set that was found makes no difference to failures. -/
theorem map (h : Gathered v leaves types x) {f : NameSet → NameSet}
    (hf : ∀ all : NameSet, (∀ t, t ∈ all ↔ t ∈ types) → ∀ t, t ∈ f all ↔ t ∈ more) :
    Gathered v leaves more (x.map f) := by
  cases h with
  | found hleaves hall => exact .found hleaves (hf _ hall)
  | failed hsplit hbefore hs => exact .failed hsplit hbefore hs

/-- Two answers, one after the other; the second is not asked for if the first is a failure. -/
theorem union (hx : Gathered v leaves types x) (hy : Gathered v others more y) :
    Gathered v (leaves ++ others) (types ∪ more) (do return (← x) ∪ (← y)) := by
  cases hx with
  | @failed before s after e hsplit hbefore hs =>
    have hsplit' : leaves ++ others = before ++ s :: (after ++ others) := by
      rw [hsplit, List.append_assoc, List.cons_append]
    exact .failed hsplit' hbefore hs
  | found hleaves hall =>
    cases hy with
    | failed hsplit hbefore hs =>
      refine .failed (by rw [hsplit, List.append_assoc]) (fun s hmem => ?_) hs
      rcases List.mem_append.1 hmem with hmem | hmem
      · exact hleaves s hmem
      · exact hbefore s hmem
    | found hothers hmore =>
      refine .found (fun s hmem => ?_) fun t => ?_
      · rcases List.mem_append.1 hmem with hmem | hmem
        · exact hleaves s hmem
        · exact hothers s hmem
      · rw [NameSet.mem_union, hall, hmore]
        rfl

/-- There is a failure just when a strategy fails. -/
theorem exists_error_iff (h : Gathered v leaves types x) :
    (∃ e, x = .error e) ↔ ∃ s ∈ leaves, ∃ e, s.find v = .error e := by
  cases h with
  | found hleaves hall =>
    refine iff_of_false (fun ⟨e, he⟩ => nomatch he) ?_
    rintro ⟨s, hs, e, he⟩
    obtain ⟨part, hpart⟩ := hleaves s hs
    cases he.symm.trans hpart
  | @failed before s after e hsplit hbefore hs =>
    refine iff_of_true ⟨e, rfl⟩ ⟨s, ?_, e, hs⟩
    rw [hsplit]
    exact List.mem_append_right before List.mem_cons_self

end Gathered

/-! ### Making the strategies -/

namespace MatcherConfig

/-- A test that passes the check can be made. -/
theorem exists_build {m : MatcherConfig} (h : m.validate = .ok ()) : ∃ made, m.build = .ok made := by
  cases m with
  | nameSuffix suffix => exact ⟨_, rfl⟩
  | regex pattern =>
    rw [validate, map_eq_ok_iff] at h
    obtain ⟨p, hp, -⟩ := h
    exact ⟨.pattern p, map_eq_ok_iff.2 ⟨p, hp, rfl⟩⟩
  | annotated a => exact ⟨_, rfl⟩

/-- The test that is made accepts what the description says. -/
theorem accepts_build {m : MatcherConfig} {made : Matcher} (h : m.build = .ok made) (g : TypeGraph)
    (type : String) : made.accepts g type = true ↔ m.Accepts g type := by
  cases m with
  | nameSuffix suffix =>
    obtain rfl := Except.ok.inj h
    unfold Matcher.accepts Accepts
    cases g.convention.simpleName type with
    | ok simple => simp
    | error e => simp
  | regex pattern =>
    rw [build, map_eq_ok_iff] at h
    obtain ⟨p, hp, rfl⟩ := h
    rw [mapError_eq_ok_iff] at hp
    rw [Matcher.accepts, Accepts, hp]
    simp
  | annotated a =>
    obtain rfl := Except.ok.inj h
    simp [Matcher.accepts, Accepts]

end MatcherConfig

namespace StrategyConfig

/-- A property of descriptions holds of each if it holds of a description whenever it holds of those
right below it. -/
@[elab_as_elim]
theorem tree_induction {motive : StrategyConfig → Prop}
    (referencedTypes : ∀ indirect, motive (.referencedTypes indirect))
    (referencedTypesInSamePackage : ∀ indirect scope,
      motive (.referencedTypesInSamePackage indirect scope))
    (allTypesInPackage : motive .allTypesInPackage)
    (allTypesUnderPackage : motive .allTypesUnderPackage)
    (matchingTypes : ∀ inner matcher, motive inner → motive (.matchingTypes inner matcher))
    (explicitTypes : ∀ inner included excluded, (∀ s ∈ inner, motive s) →
      motive (.explicitTypes inner included excluded))
    (composite : ∀ children, (∀ s ∈ children, motive s) → motive (.composite children)) :
    ∀ s, motive s
  | .referencedTypes indirect => referencedTypes indirect
  | .referencedTypesInSamePackage indirect scope => referencedTypesInSamePackage indirect scope
  | .allTypesInPackage => allTypesInPackage
  | .allTypesUnderPackage => allTypesUnderPackage
  | .matchingTypes inner matcher =>
    matchingTypes inner matcher
      (tree_induction referencedTypes referencedTypesInSamePackage allTypesInPackage
        allTypesUnderPackage matchingTypes explicitTypes composite inner)
  | .explicitTypes inner included excluded =>
    explicitTypes inner included excluded fun s _ =>
      tree_induction referencedTypes referencedTypesInSamePackage allTypesInPackage
        allTypesUnderPackage matchingTypes explicitTypes composite s
  | .composite children =>
    composite children fun s _ =>
      tree_induction referencedTypes referencedTypesInSamePackage allTypesInPackage
        allTypesUnderPackage matchingTypes explicitTypes composite s

theorem exists_buildAll {limit : Nat} {l : List StrategyConfig}
    (hall : ∀ s ∈ l, s.validate = .ok () → ∃ made, s.build limit = .ok made)
    (h : validateAll l = .ok ()) : ∃ made, buildAll limit l = .ok made := by
  induction l with
  | nil => exact ⟨[], rfl⟩
  | cons s rest ih =>
    rw [validateAll, check_bind_eq_ok_iff] at h
    obtain ⟨made, hmade⟩ := hall s List.mem_cons_self h.1
    obtain ⟨others, hothers⟩ := ih (fun s' hs' => hall s' (List.mem_cons_of_mem s hs')) h.2
    refine ⟨made :: others, ?_⟩
    rw [buildAll, hmade, hothers]
    rfl

/-- The strategy of a description that passes the check can be made. -/
theorem exists_build {s : StrategyConfig} (limit : Nat) (h : s.validate = .ok ()) :
    ∃ made, s.build limit = .ok made := by
  induction s using tree_induction with
  | referencedTypes indirect => exact ⟨_, rfl⟩
  | referencedTypesInSamePackage indirect scope => exact ⟨_, rfl⟩
  | allTypesInPackage => exact ⟨_, rfl⟩
  | allTypesUnderPackage => exact ⟨_, rfl⟩
  | matchingTypes inner matcher ih =>
    rw [validate, check_bind_eq_ok_iff] at h
    obtain ⟨made, hmade⟩ := ih h.1
    obtain ⟨test, htest⟩ := MatcherConfig.exists_build h.2
    refine ⟨.matching made test, ?_⟩
    rw [build, hmade, htest]
    rfl
  | explicitTypes inner included excluded ih =>
    cases inner with
    | none => exact ⟨_, rfl⟩
    | some inner =>
      obtain ⟨made, hmade⟩ := ih inner rfl h
      refine ⟨.explicit (some made) included excluded none, ?_⟩
      rw [build, hmade]
      rfl
  | composite children ih =>
    cases children with
    | nil => cases h
    | cons first rest =>
      have hall : validateAll (first :: rest) = .ok () := h
      obtain ⟨made, hmade⟩ := exists_buildAll ih hall
      refine ⟨.composite made none, ?_⟩
      rw [build, hmade]
      rfl

/-! ### The strategies answer the descriptions -/

variable {limit : Nat} (g : TypeGraph) (v : ComponentView)

theorem gathered_buildAll {l : List StrategyConfig} {made : List Strategy}
    (hall : ∀ s ∈ l, ∀ made, s.build limit = .ok made →
      Gathered v (s.leaves g limit) (s.reading g limit v) ((made.bind g).find v))
    (h : buildAll limit l = .ok made) :
    Gathered v (leavesAll g limit l) (readingAll g limit v l)
      (Strategy.findAll v (made.map (Strategy.bind g))) := by
  induction l generalizing made with
  | nil =>
    obtain rfl := Except.ok.inj h
    refine .found (fun s hs => absurd hs List.not_mem_nil) fun t => ?_
    exact iff_of_false (NameSet.not_mem_empty t) id
  | cons s rest ih =>
    simp only [buildAll, bind_eq_ok_iff, pure_eq_ok_iff] at h
    obtain ⟨first, hfirst, others, hothers, rfl⟩ := h
    have hrest := ih (fun s' hs' => hall s' (List.mem_cons_of_mem s hs')) hothers
    rw [List.map_cons, Strategy.findAll, leavesAll, readingAll]
    exact (hall s List.mem_cons_self first hfirst).union hrest

/-- The strategy that is made from a description, given a type graph, answers what the description
stands for. -/
theorem gathered_build {s : StrategyConfig} {made : Strategy} (h : s.build limit = .ok made) :
    Gathered v (s.leaves g limit) (s.reading g limit v) ((made.bind g).find v) := by
  induction s using tree_induction generalizing made with
  | referencedTypes indirect =>
    obtain rfl := Except.ok.inj h
    exact .single _
  | referencedTypesInSamePackage indirect scope =>
    obtain rfl := Except.ok.inj h
    exact .single _
  | allTypesInPackage =>
    obtain rfl := Except.ok.inj h
    exact .single _
  | allTypesUnderPackage =>
    obtain rfl := Except.ok.inj h
    exact .single _
  | matchingTypes inner matcher ih =>
    simp only [build, bind_eq_ok_iff, pure_eq_ok_iff] at h
    obtain ⟨strategy, hstrategy, test, htest, rfl⟩ := h
    rw [Strategy.bind, Strategy.find_matching (Strategy.graph?_bind g strategy)]
    refine (ih hstrategy).map fun all hall t => ?_
    rw [NameSet.mem_filter, hall, MatcherConfig.accepts_build htest]
    rfl
  | explicitTypes inner included excluded ih =>
    cases inner with
    | none =>
      obtain rfl := Except.ok.inj h
      rw [Strategy.bind, Strategy.find_explicit_none]
      refine .found (fun s hs => absurd hs List.not_mem_nil) fun t => ?_
      rw [ComponentView.mem_retainSupporting, NameSet.mem_sdiff, and_assoc]
      rfl
    | some inner =>
      simp only [build, bind_eq_ok_iff, pure_eq_ok_iff] at h
      obtain ⟨strategy, hstrategy, rfl⟩ := h
      rw [Strategy.bind, Strategy.find_explicit_some]
      refine (ih inner rfl hstrategy).map fun all hall t => ?_
      rw [ComponentView.mem_retainSupporting, NameSet.mem_sdiff, NameSet.mem_union, hall, and_assoc]
      rfl
  | composite children ih =>
    simp only [build, bind_eq_ok_iff, pure_eq_ok_iff] at h
    obtain ⟨strategies, hstrategies, rfl⟩ := h
    rw [Strategy.bind, Strategy.bindAll_eq_map, Strategy.find_composite]
    exact gathered_buildAll g v (fun s hs made hmade => ih s hs hmade) hstrategies

end StrategyConfig

/-! ### The analyzer of a configuration -/

theorem Analyzer.strategies_ofStrategies (g : TypeGraph) (settings : AnalyzerSettings)
    (strategies : List Strategy) :
    (Analyzer.ofStrategies g settings strategies).strategies = strategies.map (Strategy.bind g) := by
  have hfold : ∀ a : Analyzer, a.graph = g → (strategies.foldl addStrategy a).strategies =
      a.strategies ++ strategies.map (Strategy.bind g) := by
    induction strategies with
    | nil => intro a _; simp
    | cons s rest ih =>
      intro a ha
      rw [List.foldl_cons, ih (a.addStrategy s) ha]
      simp [addStrategy, ha]
  exact hfold _ rfl

namespace AnalysisConfig

theorem exists_buildAnalyzer {c : AnalysisConfig} (h : c.validate = .ok ()) (g : TypeGraph) :
    ∃ made, StrategyConfig.buildAll c.analysis.maxTraversalNodes c.strategies = .ok made ∧
      c.buildAnalyzer g = .ok (.ofStrategies g c.analysis.analyzerSettings made) := by
  have hall : StrategyConfig.validateAll c.strategies = .ok () := by
    unfold validate at h
    rw [check_bind_eq_ok_iff, check_bind_eq_ok_iff, guard_eq_ok_iff] at h
    exact h.2.2.2
  obtain ⟨made, hmade⟩ := StrategyConfig.exists_buildAll
    (fun s _ => StrategyConfig.exists_build c.analysis.maxTraversalNodes) hall
  refine ⟨made, hmade, ?_⟩
  unfold buildAnalyzer
  rw [h, hmade]
  rfl

/-- **The meaning of a configuration**: a configuration that passes the check has an analyzer, and
for every view the analyzer finds just the types that the configuration stands for, unless a leaf of
the configuration fails; it then fails as the first leaf does that fails, from left to right. -/
theorem buildAnalyzer_answers (c : AnalysisConfig) (h : c.validate = .ok ()) (g : TypeGraph) :
    ∃ a, c.buildAnalyzer g = .ok a ∧ ∀ v,
      (∀ types, a.find v = .ok types → ∀ t, t ∈ types ↔ t ∈ c.reading g v) ∧
      ((∃ e, a.find v = .error e) ↔ ∃ s ∈ c.leaves g, ∃ e, s.find v = .error e) ∧
      ∀ e, a.find v = .error e → ∃ before s after, c.leaves g = before ++ s :: after ∧
        (∀ s ∈ before, ∃ types, s.find v = .ok types) ∧ s.find v = .error e := by
  obtain ⟨made, hmade, hbuild⟩ := exists_buildAnalyzer h g
  refine ⟨_, hbuild, fun v => ?_⟩
  have hgathered : Gathered v (c.leaves g) (c.reading g v)
      ((Analyzer.ofStrategies g c.analysis.analyzerSettings made).find v) := by
    rw [Analyzer.find, Analyzer.strategies_ofStrategies]
    exact StrategyConfig.gathered_buildAll g v
      (fun s _ made hs => StrategyConfig.gathered_build g v hs) hmade
  refine ⟨fun types htypes => ?_, hgathered.exists_error_iff, fun e he => ?_⟩
  · rw [htypes] at hgathered
    cases hgathered with
    | found _ hall => exact hall
  · rw [he] at hgathered
    cases hgathered with
    | failed hsplit hbefore hs => exact ⟨_, _, _, hsplit, hbefore, hs⟩

/-- A leaf that fails below a list and a composite makes the analyzer fail, although the
configuration stands for a type that another list puts in. -/
theorem buildAnalyzer_answers_failing :
    let c : AnalysisConfig :=
      { version := 1
        analysis := { maxTraversalNodes := 5 }
        strategies := [
          .matchingTypes (.referencedTypes false) (.nameSuffix "Dao"),
          .composite [
            .explicitTypes none (.ofList ["p.H"]) ∅,
            .explicitTypes (some .allTypesUnderPackage) ∅ (.ofList ["p.X"])]] }
    let g := TypeGraph.ofFacts .dot [.reference "p..A" "p.Dao"]
    let v : ComponentView := { name := "A", primaryType := "p..A" }
    c.validate = .ok () ∧ "p.H" ∈ c.reading g v ∧
      ∃ a, c.buildAnalyzer g = .ok a ∧ ∃ e, a.find v = .error e := by
  intro c g v
  have hc : c.validate = .ok () := by decide
  have hreading : "p.H" ∈ c.reading g v := by
    refine Or.inr (Or.inl (Or.inl ⟨?_, ?_, ?_, ?_⟩)) <;> decide
  have hleaf : Strategy.packageMembers .subpackages (some g) ∈ c.leaves g := by
    simp [AnalysisConfig.leaves, StrategyConfig.leavesAll, StrategyConfig.leaves, c]
  have hfails : (Strategy.packageMembers .subpackages (some g)).find v =
      .error (.malformedTypeName "p..A" NameFault.emptySegment.reason) := by decide
  obtain ⟨a, ha, hanswers⟩ := buildAnalyzer_answers c hc g
  exact ⟨hc, hreading, a, ha, (hanswers v).2.1.2 ⟨_, hleaf, _, hfails⟩⟩

end AnalysisConfig

end ComponentSupport
