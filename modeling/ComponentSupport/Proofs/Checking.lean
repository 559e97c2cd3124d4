import ComponentSupport.Proofs.Reading

/-!
# Checking a configuration and making its analyzer

A configuration is gone through twice. The check looks at every part of it and says what is wrong;
making the strategies looks at the parts again, and can fail too, for it reads each pattern a second
time. The two are written apart, so that a kind of strategy that one of them goes into and the other
forgets would let a faulty configuration through, or refuse a good one late.

Both go through the same list: the parts of a description in order, what lies inside a part before
the part itself (`StrategyConfig.parts`). The check is the check of each part on its own
(`StrategyConfig.validate_eq_forM`), and making the strategy fails just as reading the patterns of the
parts does (`StrategyConfig.build_eq_forM`). The main theorem, `AnalysisConfig.made_iff_checked`, says
what this comes to: nothing but a pattern keeps a strategy from being made, a configuration has an
analyzer just when it passes the check, and otherwise it fails as the check does.
-/

namespace ComponentSupport

/-! ### The parts of a description -/

namespace MatcherConfig

/-- The pattern of a test, for a test that has one. -/
def pattern? : MatcherConfig → Option String
  | regex pattern => some pattern
  | _ => none

/-- A text is not empty, and a pattern can be read. -/
def Sound : MatcherConfig → Prop
  | nameSuffix suffix => suffix ≠ ""
  | regex pattern => Pattern.isValid pattern = true
  | annotated a => a ≠ ""

end MatcherConfig

namespace StrategyConfig

mutual

/-- The descriptions that a description is made of, down to the leaves, itself as the last. What lies
inside a part comes before it. -/
def parts : StrategyConfig → List StrategyConfig
  | matchingTypes inner matcher => inner.parts ++ [matchingTypes inner matcher]
  | explicitTypes (some inner) included excluded =>
    inner.parts ++ [explicitTypes (some inner) included excluded]
  | composite children => partsAll children ++ [composite children]
  | leaf => [leaf]

/-- The parts of several descriptions, in order. -/
def partsAll : List StrategyConfig → List StrategyConfig
  | [] => []
  | s :: rest => s.parts ++ partsAll rest

end

/-- The pattern that a part has of its own, if it has one. -/
def pattern? : StrategyConfig → Option String
  | matchingTypes _ matcher => matcher.pattern?
  | _ => none

/-- The patterns in a description, from left to right, those of an inner strategy before that of the
test on it. -/
def patterns (s : StrategyConfig) : List String := s.parts.filterMap pattern?

/-- What a part has to be like on its own: a union has children, and a test is sound. -/
def Sound : StrategyConfig → Prop
  | matchingTypes _ matcher => matcher.Sound
  | composite children => children ≠ []
  | _ => True

theorem partsAll_eq_flatMap (l : List StrategyConfig) : partsAll l = l.flatMap parts := by
  induction l with
  | nil => rfl
  | cons s rest ih => rw [partsAll, ih, List.flatMap_cons]

theorem patterns_matchingTypes (inner : StrategyConfig) (matcher : MatcherConfig) :
    (matchingTypes inner matcher).patterns = inner.patterns ++ matcher.pattern?.toList := by
  rw [patterns, parts, List.filterMap_append]
  cases h : matcher.pattern? <;> simp [patterns, pattern?, h]

theorem patterns_explicitTypes (inner : StrategyConfig) (included excluded : NameSet) :
    (explicitTypes (some inner) included excluded).patterns = inner.patterns := by
  rw [patterns, parts, List.filterMap_append]
  exact List.append_nil inner.patterns

theorem patterns_composite (children : List StrategyConfig) :
    (composite children).patterns = children.flatMap patterns := by
  rw [patterns, parts, partsAll_eq_flatMap, List.filterMap_append, List.filterMap_flatMap]
  exact List.append_nil (children.flatMap patterns)

end StrategyConfig

/-! ### The check -/

namespace MatcherConfig

theorem validate_eq_ok_iff (m : MatcherConfig) : m.validate = .ok () ↔ m.Sound := by
  cases m with
  | nameSuffix suffix => simp [validate, Sound]
  | regex pattern =>
    simp only [validate, Sound, map_eq_ok_iff, mapError_eq_ok_iff, Pattern.isValid]
    cases Pattern.compile pattern <;> simp [Except.isOk, Except.toBool]
  | annotated a => simp [validate, Sound]

end MatcherConfig

namespace StrategyConfig

/-- The check of a part on its own. -/
def checkPart : StrategyConfig → Except ConfigError Unit
  | matchingTypes _ matcher => matcher.validate
  | composite [] => .error (.emptyStrategyList "composite strategy")
  | _ => .ok ()

theorem checkPart_eq_ok_iff (s : StrategyConfig) : s.checkPart = .ok () ↔ s.Sound := by
  cases s with
  | matchingTypes inner matcher => exact matcher.validate_eq_ok_iff
  | composite children => cases children <;> simp [checkPart, Sound]
  | _ => simp [checkPart, Sound]

theorem validateAll_eq_forM {l : List StrategyConfig}
    (h : ∀ s ∈ l, s.validate = s.parts.forM checkPart) :
    validateAll l = (partsAll l).forM checkPart := by
  induction l with
  | nil => rfl
  | cons s rest ih =>
    rw [List.forall_mem_cons] at h
    rw [validateAll, partsAll, h.1, ih h.2, List.forM_eq_forM, List.forM_append]

/-- Checking a description is checking each of its parts on its own. -/
theorem validate_eq_forM (s : StrategyConfig) : s.validate = s.parts.forM checkPart := by
  induction s using tree_induction with
  | referencedTypes indirect => rfl
  | referencedTypesInSamePackage indirect scope => rfl
  | allTypesInPackage => rfl
  | allTypesUnderPackage => rfl
  | matchingTypes inner matcher ih =>
    rw [validate, parts, forM_concat, ih]
    rfl
  | explicitTypes inner included excluded ih =>
    cases inner with
    | none => rfl
    | some inner =>
      rw [validate, parts, forM_concat, ih inner rfl]
      exact (check_bind_ok _).symm
  | composite children ih =>
    rw [parts, forM_concat, ← validateAll_eq_forM ih]
    cases children with
    | nil => rfl
    | cons first rest => exact (check_bind_ok _).symm

/-- A description passes the check when all its parts are sound. -/
theorem validate_eq_ok_iff (s : StrategyConfig) :
    s.validate = .ok () ↔ ∀ part ∈ s.parts, part.Sound := by
  rw [validate_eq_forM, forM_eq_ok_iff]
  simp only [checkPart_eq_ok_iff]

end StrategyConfig

/-! ### Making the strategies -/

/-- Reads a pattern for its faults only. -/
def checkPattern (pattern : String) : Except ConfigError Unit :=
  (Pattern.compile pattern).mapError .invalidPattern |>.map fun _ => ()

theorem checkPattern_eq_ok_iff (pattern : String) :
    checkPattern pattern = .ok () ↔ Pattern.isValid pattern = true := by
  rw [checkPattern, map_eq_ok_iff, Pattern.isValid]
  cases Pattern.compile pattern <;> simp [Except.isOk, Except.toBool, Except.mapError]

/-- A pattern that cannot be read is named, with the reason. -/
theorem checkPattern_eq_error_iff {pattern : String} {e : ConfigError} :
    checkPattern pattern = .error e ↔
      ∃ reason, Pattern.compile pattern = .error { pattern, reason } ∧
        e = .invalidPattern { pattern, reason } := by
  rw [checkPattern, map_eq_error_iff, Pattern.compile]
  cases Pattern.automaton? pattern with
  | ok automaton => simp [Except.mapError]
  | error fault => simp [Except.mapError, eq_comm]

theorem MatcherConfig.build_eq_forM (m : MatcherConfig) :
    m.build.map (fun _ => ()) = m.pattern?.toList.forM checkPattern := by
  cases m with
  | nameSuffix suffix => rfl
  | regex pattern =>
    have hone : [pattern].forM checkPattern = checkPattern pattern := check_bind_ok _
    rw [build, pattern?, Option.toList_some, hone, checkPattern]
    cases Pattern.compile pattern <;> rfl
  | annotated a => rfl

namespace StrategyConfig

theorem buildAll_eq_forM {limit : Nat} {l : List StrategyConfig}
    (h : ∀ s ∈ l, (s.build limit).map (fun _ => ()) = s.patterns.forM checkPattern) :
    (buildAll limit l).map (fun _ => ()) = (l.flatMap patterns).forM checkPattern := by
  induction l with
  | nil => rfl
  | cons s rest ih =>
    rw [List.forall_mem_cons] at h
    rw [buildAll, map_unit_bind_bind, h.1, ih h.2, List.flatMap_cons, List.forM_eq_forM,
      List.forM_append]

/-- Making the strategy of a description, the strategy itself apart, is reading its patterns. -/
theorem build_eq_forM (limit : Nat) (s : StrategyConfig) :
    (s.build limit).map (fun _ => ()) = s.patterns.forM checkPattern := by
  induction s using tree_induction with
  | referencedTypes indirect => rfl
  | referencedTypesInSamePackage indirect scope => rfl
  | allTypesInPackage => rfl
  | allTypesUnderPackage => rfl
  | matchingTypes inner matcher ih =>
    rw [patterns_matchingTypes, build, map_unit_bind_bind, ih, matcher.build_eq_forM,
      List.forM_eq_forM, List.forM_append]
  | explicitTypes inner included excluded ih =>
    cases inner with
    | none => rfl
    | some inner =>
      rw [patterns_explicitTypes, ← ih inner rfl, build]
      cases inner.build limit <;> rfl
  | composite children ih =>
    rw [patterns_composite, ← buildAll_eq_forM ih, build]
    cases buildAll limit children <;> rfl

/-- No strategy is made when some pattern cannot be read. -/
theorem exists_build_eq_error_iff (limit : Nat) (s : StrategyConfig) :
    (∃ e, s.build limit = .error e) ↔ ∃ p ∈ s.patterns, Pattern.isValid p = false := by
  have hok : (∃ made, s.build limit = .ok made) ↔ ∀ p ∈ s.patterns, Pattern.isValid p = true := by
    simp only [← checkPattern_eq_ok_iff, ← forM_eq_ok_iff, ← build_eq_forM limit, map_eq_ok_iff,
      and_true]
  rw [exists_eq_error_iff, hok]
  simp

/-- What is wrong when no strategy is made is the first pattern that cannot be read. -/
theorem build_eq_error_iff {limit : Nat} {s : StrategyConfig} {e : ConfigError} :
    s.build limit = .error e ↔ ∃ before p after reason,
      s.patterns = before ++ p :: after ∧ (∀ q ∈ before, Pattern.isValid q = true) ∧
        Pattern.compile p = .error { pattern := p, reason } ∧
        e = .invalidPattern { pattern := p, reason } := by
  rw [← map_eq_error_iff (f := fun _ => ()), build_eq_forM, forM_eq_error_iff]
  simp only [checkPattern_eq_ok_iff, checkPattern_eq_error_iff, exists_and_left]

theorem forall₂_of_buildAll {limit : Nat} {l : List StrategyConfig} {made : List Strategy}
    (h : buildAll limit l = .ok made) :
    List.Forall₂ (fun s strategy => s.build limit = .ok strategy) l made := by
  induction l generalizing made with
  | nil =>
    obtain rfl := Except.ok.inj h
    exact .nil
  | cons s rest ih =>
    simp only [buildAll, bind_eq_ok_iff, pure_eq_ok_iff] at h
    obtain ⟨first, hfirst, others, hothers, rfl⟩ := h
    exact .cons hfirst (ih hothers)

end StrategyConfig

/-! ### Both together -/

namespace AnalysisConfig

/-- **What is checked can be made**. No strategy is made of a description just when one of its patterns
cannot be read, and the first of these is then what is wrong; a description passes the check when all
its parts are sound. So a configuration has an analyzer when it passes the check, with the strategies
of the configuration in order, and it fails as the check does otherwise. -/
theorem made_iff_checked :
    (∀ (s : StrategyConfig) (limit : Nat),
      ((∃ e, s.build limit = .error e) ↔ ∃ p ∈ s.patterns, Pattern.isValid p = false) ∧
      (∀ e, s.build limit = .error e ↔ ∃ before p after reason,
        s.patterns = before ++ p :: after ∧ (∀ q ∈ before, Pattern.isValid q = true) ∧
          Pattern.compile p = .error { pattern := p, reason } ∧
          e = .invalidPattern { pattern := p, reason }) ∧
      (s.validate = .ok () ↔ ∀ part ∈ s.parts, part.Sound)) ∧
    ∀ (c : AnalysisConfig) (g : TypeGraph),
      ((∃ a, c.buildAnalyzer g = .ok a) ↔ c.validate = .ok ()) ∧
      (∀ e, c.buildAnalyzer g = .error e ↔ c.validate = .error e) ∧
      ∀ a, c.buildAnalyzer g = .ok a →
        List.Forall₂
          (fun s strategy => ∃ made,
            s.build c.analysis.maxTraversalNodes = .ok made ∧ strategy = made.bind g)
          c.strategies a.strategies := by
  constructor
  · intro s limit
    exact ⟨s.exists_build_eq_error_iff limit, fun e => StrategyConfig.build_eq_error_iff,
      s.validate_eq_ok_iff⟩
  · intro c g
    cases hcheck : c.validate with
    | error e =>
      have hbuild : c.buildAnalyzer g = .error e := by
        rw [buildAnalyzer, hcheck]
        rfl
      rw [hbuild]
      simp
    | ok _ =>
      obtain ⟨made, hmade, hbuild⟩ := exists_buildAnalyzer hcheck g
      rw [hbuild]
      refine ⟨by simp, by simp, fun a ha => ?_⟩
      obtain rfl := Except.ok.inj ha
      rw [Analyzer.strategies_ofStrategies, List.forall₂_map_right_iff]
      exact (StrategyConfig.forall₂_of_buildAll hmade).imp fun s made hs => ⟨made, hs, rfl⟩

/-- Of two patterns that cannot be read the inner one is named, and a pattern that can be read is made
into a strategy below another. -/
theorem made_iff_checked_nested :
    let faulty : StrategyConfig :=
      .matchingTypes (.matchingTypes .allTypesInPackage (.regex "(a")) (.regex "b)")
    let fault : InvalidPattern :=
      { pattern := "(a", reason := Pattern.PatternFault.unclosedGroup.reason }
    let c : AnalysisConfig :=
      { version := 1
        strategies := [
          .referencedTypes true,
          .explicitTypes (some (.matchingTypes .allTypesInPackage (.regex "^$"))) ∅ ∅] }
    let g := TypeGraph.ofFacts .dot []
    faulty.build 5 = .error (.invalidPattern fault) ∧
      c.validate = .ok () ∧ ∃ a, c.buildAnalyzer g = .ok a ∧ a.strategies.length = 2 := by
  intro faulty fault c g
  have hfault : Pattern.compile "(a" = .error fault := rfl
  have hc : c.validate = .ok () := by decide
  obtain ⟨hmade, -, hstrategies⟩ := made_iff_checked.2 c g
  obtain ⟨a, ha⟩ := hmade.2 hc
  refine ⟨?_, hc, a, ha, (hstrategies a ha).length_eq.symm⟩
  exact ((made_iff_checked.1 faulty 5).2.1 _).2
    ⟨[], "(a", ["b)"], _, rfl, fun _ hq => absurd hq List.not_mem_nil, hfault, rfl⟩

end AnalysisConfig

end ComponentSupport
