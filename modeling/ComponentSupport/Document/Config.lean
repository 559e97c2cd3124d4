import ComponentSupport.Config.Analysis
import ComponentSupport.Document.Summary

/-!
# Configurations in documents

A strategy is a record with its kind and the fields of that kind, or a list with the kind at its
head. Configuration, settings and strategies are written with all their fields, except that a
missing inner strategy is left out.

A configuration that is read from YAML has its version looked at first, so that a document of
another version is refused for its version and not for its form (`AnalysisConfig.ofYamlTree`).
-/

namespace ComponentSupport

/-! ### Variants -/

/-- The kind of a variant and the rest of it; `name` is the field that holds the kind. -/
def Tree.variant (name : String) : Tree → Except DecodeError (Tree × Tree)
  | .record fields =>
    match fields.filter (·.1 == .text name) with
    | [kind] => .ok (kind.2, .record (fields.filter (!·.1 == .text name)))
    | [] => .error (.missingField name)
    | _ => .error (.repeatedField name)
  | .list (kind :: rest) => .ok (kind, .list rest)
  | .list [] => .error (.missingField name)
  | _ => .error (.unexpected "a mapping with a kind")

mutual

/-- A tag occurs somewhere. -/
def Tree.hasTag : Tree → Bool
  | .tagged _ _ => true
  | .list items => Tree.itemsHaveTag items
  | .record fields => Tree.fieldsHaveTag fields
  | _ => false

/-- A tag occurs in one of the items. -/
def Tree.itemsHaveTag : List Tree → Bool
  | [] => false
  | t :: rest => t.hasTag || Tree.itemsHaveTag rest

/-- A tag occurs in one of the fields. -/
def Tree.fieldsHaveTag : List (Tree × Tree) → Bool
  | [] => false
  | (k, v) :: rest => k.hasTag || v.hasTag || Tree.fieldsHaveTag rest

end

mutual

/-- How deeply lists and records are nested. -/
def Tree.height : Tree → Nat
  | .list items => Tree.itemsHeight items + 1
  | .record fields => Tree.fieldsHeight fields + 1
  | .tagged _ value => value.height + 1
  | _ => 1

/-- The largest height of the items. -/
def Tree.itemsHeight : List Tree → Nat
  | [] => 0
  | t :: rest => max t.height (Tree.itemsHeight rest)

/-- The largest height of the values. -/
def Tree.fieldsHeight : List (Tree × Tree) → Nat
  | [] => 0
  | (_, v) :: rest => max v.height (Tree.fieldsHeight rest)

end

/-- The kind of a variant, and its fields without tags. The kind is read in the dialect of the place
at which the variant stands. -/
def Dialect.kindOf {α : Type} (d : Dialect) (name : String) (kinds : List (String × α)) (t : Tree) :
    Except DecodeError (α × Tree) := do
  let (kind, content) ← t.variant name
  let kind ← d.pickKey kinds (d.strip kind)
  if content.hasTag then throw (.unexpected "no tag")
  return (kind, content)

/-! ### Matchers -/

namespace MatcherConfig

/-- The kinds of matchers. -/
inductive Kind where
  | nameSuffix
  | regex
  | annotated
  deriving DecidableEq

/-- The kinds by their names in documents. -/
def kinds : List (String × Kind) :=
  [("name_suffix", .nameSuffix), ("regex", .regex), ("annotation", .annotated)]

/-- The tree of a matcher. -/
def toTree : MatcherConfig → Tree
  | nameSuffix suffix => .object [("type", .text "name_suffix"), ("suffix", .text suffix)]
  | regex pattern => .object [("type", .text "regex"), ("pattern", .text pattern)]
  | annotated a => .object [("type", .text "annotation"), ("annotation", .text a)]

/-- Reads a matcher. -/
def ofTree (d : Dialect) (t : Tree) : Except DecodeError MatcherConfig := do
  let (kind, content) ← d.kindOf "type" kinds t
  let v := Dialect.variant
  match kind with
  | .nameSuffix =>
    return nameSuffix
      (← Dialect.required (← v.fields ["suffix"] false content) "suffix" v.text)
  | .regex =>
    return regex (← Dialect.required (← v.fields ["pattern"] false content) "pattern" v.text)
  | .annotated =>
    return annotated
      (← Dialect.required (← v.fields ["annotation"] false content) "annotation" v.text)

end MatcherConfig

/-! ### Strategies -/

namespace StrategyConfig

/-- The kinds of strategies. -/
inductive Kind where
  | referencedTypes
  | referencedTypesInSamePackage
  | allTypesInPackage
  | allTypesUnderPackage
  | matchingTypes
  | explicitTypes
  | composite
  deriving DecidableEq

/-- The kinds by their names in documents. -/
def kinds : List (String × Kind) :=
  [("referenced_types", .referencedTypes),
    ("referenced_types_in_same_package", .referencedTypesInSamePackage),
    ("all_types_in_package", .allTypesInPackage),
    ("all_types_under_package", .allTypesUnderPackage),
    ("matching_types", .matchingTypes), ("explicit_types", .explicitTypes),
    ("composite", .composite)]

mutual

/-- The fields of a strategy beside its kind. -/
def fieldsOf : StrategyConfig → List (String × Tree)
  | referencedTypes indirect => [("include_indirect", .bool indirect)]
  | referencedTypesInSamePackage indirect scope =>
    [("include_indirect", .bool indirect), ("scope", .text scope.label)]
  | allTypesInPackage => []
  | allTypesUnderPackage => []
  | matchingTypes inner matcher =>
    [("inner", .object (("kind", .text inner.kind) :: inner.fieldsOf)),
      ("matcher", matcher.toTree)]
  | explicitTypes none included excluded =>
    [("include", .texts included.toList), ("exclude", .texts excluded.toList)]
  | explicitTypes (some inner) included excluded =>
    [("inner", .object (("kind", .text inner.kind) :: inner.fieldsOf)),
      ("include", .texts included.toList), ("exclude", .texts excluded.toList)]
  | composite children => [("strategies", .list (treesOf children))]

/-- The trees of a list of strategies. -/
def treesOf : List StrategyConfig → List Tree
  | [] => []
  | s :: rest => .object (("kind", .text s.kind) :: s.fieldsOf) :: treesOf rest

end

/-- The tree of a strategy. -/
def toTree (s : StrategyConfig) : Tree :=
  .object (("kind", .text s.kind) :: s.fieldsOf)

/-- A kind without fields: whatever is written beside it means nothing, but a list ends with it. -/
def noFields (s : StrategyConfig) : Tree → Except DecodeError StrategyConfig
  | .list (_ :: _) => .error (.unexpected "no fields")
  | _ => .ok s

/-- Reads a strategy, if `read` reads the strategies inside it. -/
def ofTreeBy (read : Tree → Except DecodeError StrategyConfig) (d : Dialect) (t : Tree) :
    Except DecodeError StrategyConfig := do
  let (kind, content) ← d.kindOf "kind" kinds t
  let v := Dialect.variant
  match kind with
  | .referencedTypes =>
    let fields ← v.fields ["include_indirect"] false content
    return referencedTypes (← Dialect.optional fields "include_indirect" true v.bool)
  | .referencedTypesInSamePackage =>
    let fields ← v.fields ["include_indirect", "scope"] false content
    let indirect ← Dialect.optional fields "include_indirect" true v.bool
    let scope ← Dialect.optional fields "scope" .exact (PackageScope.ofTree v)
    return referencedTypesInSamePackage indirect scope
  | .allTypesInPackage => noFields allTypesInPackage content
  | .allTypesUnderPackage => noFields allTypesUnderPackage content
  | .matchingTypes =>
    let fields ← v.fields ["inner", "matcher"] false content
    let inner ← Dialect.required fields "inner" read
    let matcher ← Dialect.required fields "matcher" (MatcherConfig.ofTree v)
    return matchingTypes inner matcher
  | .explicitTypes =>
    let fields ← v.fields ["inner", "include", "exclude"] false content
    let inner ← Dialect.optional fields "inner" none (Dialect.option read)
    let included ← Dialect.optional fields "include" [] v.texts
    let excluded ← Dialect.optional fields "exclude" [] v.texts
    return explicitTypes inner (.ofList included) (.ofList excluded)
  | .composite =>
    let fields ← v.fields ["strategies"] false content
    return composite (← Dialect.required fields "strategies" (v.list read))

/-- Reads a strategy that is nested no deeper than a number. -/
def ofTreeWithin : Nat → Dialect → Tree → Except DecodeError StrategyConfig
  | 0, _, _ => .error (.unexpected "less nesting")
  | depth + 1, d, t => ofTreeBy (ofTreeWithin depth .variant) d t

/-- Reads a strategy. -/
def ofTree (d : Dialect) (t : Tree) : Except DecodeError StrategyConfig :=
  ofTreeWithin t.height d t

end StrategyConfig

/-! ### Settings and configurations -/

namespace AnalysisSettings

/-- The tree of the settings. -/
def toTree (s : AnalysisSettings) : Tree :=
  .object [("max_traversal_nodes", .int s.maxTraversalNodes), ("parallel", .bool s.parallel),
    ("assignment", .text s.assignment.label)]

/-- Reads the settings. -/
def ofTree (d : Dialect) (t : Tree) : Except DecodeError AnalysisSettings := do
  let fields ← d.fields ["max_traversal_nodes", "parallel", "assignment"] true t
  return {
    maxTraversalNodes := ← Dialect.optional fields "max_traversal_nodes" 100000 (d.nat 64)
    parallel := ← Dialect.optional fields "parallel" true d.bool
    assignment := ← Dialect.optional fields "assignment" .replace (Assignment.ofTree d) }

end AnalysisSettings

namespace AnalysisConfig

/-- The tree of a configuration. -/
def toTree (c : AnalysisConfig) : Tree :=
  .object [("version", .int c.version), ("analysis", c.analysis.toTree),
    ("strategies", .list (c.strategies.map (·.toTree)))]

/-- Reads a configuration, whatever its version. -/
def ofTree (d : Dialect) (t : Tree) : Except DecodeError AnalysisConfig := do
  let fields ← d.fields ["version", "analysis", "strategies"] true t
  return {
    version := ← Dialect.required fields "version" (d.nat 32)
    analysis := ← Dialect.optional fields "analysis" {} (AnalysisSettings.ofTree d)
    strategies :=
      ← Dialect.optional fields "strategies" [.standard] (d.list (StrategyConfig.ofTree d)) }

/-- The version that a document states. -/
def versionOf (t : Tree) : Except ConfigError Nat :=
  match t.get? "version" with
  | none => .error .missingVersion
  | some value =>
    match value.untag with
    | .int (.ofNat n) => .ok n
    | _ => .error (.validation "'version' must be an integer")

/-- Reads a configuration from what a YAML document holds: first its version, then its form, then
its rules. -/
def ofYamlTree (t : Tree) : Except ConfigError AnalysisConfig := do
  checkVersion (← versionOf t)
  let c ← (ofTree .configFile t).mapError fun e => .yaml e.message
  c.validate
  return c

end AnalysisConfig

end ComponentSupport
