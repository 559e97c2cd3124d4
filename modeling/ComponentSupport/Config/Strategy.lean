import ComponentSupport.Config.Error
import ComponentSupport.Strategy.Basic

/-!
# Configured strategies

A `StrategyConfig` describes a strategy as a configuration does: without a type graph, and with
patterns as text. `StrategyConfig.validate` checks a description, and `StrategyConfig.build` makes
the strategy, which needs less: an empty list makes a strategy that finds nothing.
-/

namespace ComponentSupport

/-- A configured test on type names. -/
inductive MatcherConfig where
  | nameSuffix (suffix : String)
  | regex (pattern : String)
  | annotated (name : String)
  deriving DecidableEq, Repr

/-- A configured strategy. -/
inductive StrategyConfig where
  | referencedTypes (indirect : Bool)
  | referencedTypesInSamePackage (indirect : Bool) (scope : PackageScope)
  | allTypesInPackage
  | allTypesUnderPackage
  | matchingTypes (inner : StrategyConfig) (matcher : MatcherConfig)
  | explicitTypes (inner : Option StrategyConfig) (included excluded : NameSet)
  | composite (children : List StrategyConfig)

namespace MatcherConfig

/-- What this part of a configuration is called. -/
def configName : String := "MatcherConfig"

/-- Checks a configured test: a text is not empty, and a pattern can be read. -/
def validate : MatcherConfig → Except ConfigError Unit
  | nameSuffix suffix =>
    if suffix.isEmpty then .error (.validation "name_suffix matcher needs a non-empty suffix")
    else .ok ()
  | regex pattern => (Pattern.compile pattern).mapError .invalidPattern |>.map fun _ => ()
  | annotated a =>
    if a.isEmpty then .error (.validation "annotation matcher needs a non-empty annotation")
    else .ok ()

/-- Makes the test. -/
def build : MatcherConfig → Except ConfigError Matcher
  | nameSuffix suffix => .ok (.nameSuffix suffix)
  | regex pattern => (Pattern.compile pattern).mapError .invalidPattern |>.map .pattern
  | annotated a => .ok (.annotated a)

end MatcherConfig

namespace StrategyConfig

/-- What this part of a configuration is called. -/
def configName : String := "StrategyConfig"

instance : Inhabited StrategyConfig := ⟨allTypesInPackage⟩

/-- The strategy of a configuration that names none. -/
def standard : StrategyConfig := referencedTypesInSamePackage true .exact

/-- The name of a kind of strategy in documents. -/
def kind : StrategyConfig → String
  | referencedTypes _ => "referenced_types"
  | referencedTypesInSamePackage _ _ => "referenced_types_in_same_package"
  | allTypesInPackage => "all_types_in_package"
  | allTypesUnderPackage => "all_types_under_package"
  | matchingTypes _ _ => "matching_types"
  | explicitTypes _ _ _ => "explicit_types"
  | composite _ => "composite"

mutual

/-- Checks a configured strategy and all below it, an inner strategy before its test. -/
def validate : StrategyConfig → Except ConfigError Unit
  | matchingTypes inner matcher => do
    inner.validate
    matcher.validate
  | explicitTypes (some inner) _ _ => inner.validate
  | composite [] => .error (.emptyStrategyList "composite strategy")
  | composite (first :: rest) => do
    first.validate
    validateAll rest
  | _ => .ok ()

/-- Checks configured strategies in order. -/
def validateAll : List StrategyConfig → Except ConfigError Unit
  | [] => .ok ()
  | s :: rest => do
    s.validate
    validateAll rest

end

mutual

/-- Makes the strategy; its traversals may visit so many types. -/
def build (limit : Nat) : StrategyConfig → Except ConfigError Strategy
  | referencedTypes indirect => .ok (.referenced { indirect, limit } none)
  | referencedTypesInSamePackage indirect scope =>
    .ok (.samePackage { indirect, limit } scope none)
  | allTypesInPackage => .ok (.packageMembers .exact none)
  | allTypesUnderPackage => .ok (.packageMembers .subpackages none)
  | matchingTypes inner matcher => do
    let inner ← inner.build limit
    return .matching inner (← matcher.build)
  | explicitTypes none included excluded => .ok (.explicit none included excluded none)
  | explicitTypes (some inner) included excluded => do
    return .explicit (some (← inner.build limit)) included excluded none
  | composite children => return .composite (← buildAll limit children) none

/-- Makes strategies in order. -/
def buildAll (limit : Nat) : List StrategyConfig → Except ConfigError (List Strategy)
  | [] => .ok []
  | s :: rest => do
    let strategy ← s.build limit
    return strategy :: (← buildAll limit rest)

end

end StrategyConfig

end ComponentSupport
