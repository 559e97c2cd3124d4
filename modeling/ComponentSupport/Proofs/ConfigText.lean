import ComponentSupport.Document.ConfigFile
import ComponentSupport.Proofs.Decoding
import ComponentSupport.Proofs.Nesting
import ComponentSupport.Proofs.Reading
import ComponentSupport.Proofs.TreeEquality

/-!
# Configurations survive their text

A configuration is written with all its fields, but for an inner strategy that is not there, and it
is read in three steps: the version is looked at before anything else, then the tree is decoded, and
then the configuration is checked. `AnalysisConfig.ofYaml_toYaml` says what the three make of a
configuration that was written: they accept it, as the configuration that it was, just when it
passes the check, and they refuse it in the words of the check otherwise. The version is the reason
why this is not plain: the form of a document is never looked at if its version is not supported,
and the check looks at the version first too, so that both give the same answer.

The notation of YAML itself is not the subject here, and the theorem takes it for granted that the
text of the configuration is read as the tree that was written.
-/

namespace ComponentSupport

/-! ### Written variants -/

namespace Tree

theorem itemsHaveTag_eq_any (items : List Tree) : itemsHaveTag items = items.any (·.hasTag) := by
  induction items with
  | nil => rfl
  | cons t rest ih => rw [itemsHaveTag, ih, List.any_cons]

@[simp] theorem hasTag_text (s : String) : (text s).hasTag = false := rfl

@[simp] theorem hasTag_bool (b : Bool) : (bool b).hasTag = false := rfl

theorem hasTag_list (items : List Tree) : (list items).hasTag = items.any (·.hasTag) :=
  itemsHaveTag_eq_any items

theorem hasTag_object (fields : List (String × Tree)) :
    (object fields).hasTag = fields.any (·.2.hasTag) := by
  show fieldsHaveTag _ = _
  induction fields with
  | nil => rfl
  | cons f rest ih =>
    rw [List.map_cons, fieldsHaveTag, ih, List.any_cons, hasTag_text, Bool.false_or]

@[simp] theorem hasTag_texts (values : List String) : (texts values).hasTag = false := by
  rw [texts, hasTag_list, List.any_map, List.any_eq_false]
  intro s _
  exact Bool.false_ne_true

@[simp] theorem text_beq_text (a b : String) : (text a == text b) = (a == b) := rfl

/-- The kind that was written first is found, and the other fields are the rest. -/
theorem variant_object (name : String) (kind : Tree) {fields : List (String × Tree)}
    (h : ∀ f ∈ fields, f.1 ≠ name) :
    (object ((name, kind) :: fields)).variant name = .ok (kind, object fields) := by
  have hnone : fields.filter (·.1 == name) = [] := by
    rw [List.filter_eq_nil_iff]
    exact fun f hf => by simpa using h f hf
  have hall : fields.filter (!·.1 == name) = fields := by
    rw [List.filter_eq_self]
    exact fun f hf => by simpa using h f hf
  simp only [object, variant, List.map_cons, List.filter_cons, text_beq_text, beq_self_eq_true,
    if_true, List.filter_map, Function.comp_def, hnone, Bool.not_true, hall]
  rfl

end Tree

/-- A variant that was written has the kind that was written, and its other fields. -/
theorem Dialect.kindOf_object {α : Type} (d : Dialect) {name kindName : String}
    {kinds : List (String × α)} {kind : α} {fields : List (String × Tree)}
    (hkind : pick kinds kindName = .ok kind) (hnames : ∀ f ∈ fields, f.1 ≠ name)
    (htags : ∀ f ∈ fields, f.2.hasTag = false) :
    d.kindOf name kinds (.object ((name, .text kindName) :: fields)) =
      .ok (kind, .object fields) := by
  refine kindOf_eq_ok_iff.2 ⟨_, Tree.variant_object name _ hnames, ?_, ?_⟩
  · rw [strip_text]
    exact hkind
  · rw [Tree.hasTag_object, List.any_eq_false]
    exact fun f hf => by simp [htags f hf]

/-! ### Choices, matchers and strategies -/

theorem PackageScope.ofTree_label (d : Dialect) (scope : PackageScope) :
    ofTree d (.text scope.label) = .ok scope := by
  cases scope <;> rfl

theorem Assignment.ofTree_label (d : Dialect) (a : Assignment) :
    ofTree d (.text a.label) = .ok a := by
  cases a <;> rfl

namespace MatcherConfig

theorem hasTag_toTree (m : MatcherConfig) : m.toTree.hasTag = false := by
  cases m <;> rfl

theorem ofTree_toTree (d : Dialect) (m : MatcherConfig) : ofTree d m.toTree = .ok m := by
  cases m with
  | nameSuffix suffix =>
    rw [ofTree, toTree, d.kindOf_object rfl (by simp) (by simp), ok_bind]
    simp [Dialect.fields_object, Dialect.required, ok_bind]
  | regex pattern =>
    rw [ofTree, toTree, d.kindOf_object rfl (by simp) (by simp), ok_bind]
    simp [Dialect.fields_object, Dialect.required, ok_bind]
  | annotated a =>
    rw [ofTree, toTree, d.kindOf_object rfl (by simp) (by simp), ok_bind]
    simp [Dialect.fields_object, Dialect.required, ok_bind]

end MatcherConfig

namespace StrategyConfig

theorem treesOf_eq_map (l : List StrategyConfig) : treesOf l = l.map toTree := by
  induction l with
  | nil => rfl
  | cons s rest ih =>
    rw [treesOf, ih]
    rfl

theorem fieldsOf_explicitTypes_some (inner : StrategyConfig) (included excluded : NameSet) :
    (explicitTypes (some inner) included excluded).fieldsOf =
      [("inner", inner.toTree), ("include", .texts included.toList),
        ("exclude", .texts excluded.toList)] := rfl

theorem fieldsOf_matchingTypes (inner : StrategyConfig) (matcher : MatcherConfig) :
    (matchingTypes inner matcher).fieldsOf =
      [("inner", inner.toTree), ("matcher", matcher.toTree)] := rfl

theorem fieldsOf_composite (children : List StrategyConfig) :
    (composite children).fieldsOf = [("strategies", .list (children.map toTree))] := by
  rw [fieldsOf, treesOf_eq_map]

/-- No written strategy has a tag. -/
theorem hasTag_toTree (s : StrategyConfig) : s.toTree.hasTag = false := by
  induction s using tree_induction with
  | referencedTypes indirect => rfl
  | referencedTypesInSamePackage indirect scope => rfl
  | allTypesInPackage => rfl
  | allTypesUnderPackage => rfl
  | matchingTypes inner matcher ih =>
    rw [toTree, fieldsOf_matchingTypes, Tree.hasTag_object]
    simp [ih, matcher.hasTag_toTree]
  | explicitTypes inner included excluded ih =>
    cases inner with
    | none =>
      rw [toTree, Tree.hasTag_object]
      simp [fieldsOf]
    | some inner =>
      rw [toTree, fieldsOf_explicitTypes_some, Tree.hasTag_object]
      simp [ih inner rfl]
  | composite children ih =>
    rw [toTree, fieldsOf_composite, Tree.hasTag_object]
    simpa [Tree.hasTag_list] using ih

/-- The kind of a written strategy is found, and what is left are its fields. -/
theorem kindOf_toTree (d : Dialect) {s : StrategyConfig} {kind : Kind}
    (hkind : Dialect.pick kinds s.kind = .ok kind) :
    d.kindOf "kind" kinds s.toTree = .ok (kind, .object s.fieldsOf) := by
  refine d.kindOf_object hkind ?_ ?_
  · cases s with
    | explicitTypes inner _ _ => cases inner <;> simp [fieldsOf]
    | _ => simp [fieldsOf]
  · have htag := s.hasTag_toTree
    rw [toTree, Tree.hasTag_object, List.any_eq_false] at htag
    exact fun f hf => by simpa using htag f (List.mem_cons_of_mem _ hf)

/-- A strategy is read as it was written, in every dialect. -/
theorem ofTree_toTree (d : Dialect) (s : StrategyConfig) : ofTree d s.toTree = .ok s := by
  induction s using tree_induction generalizing d with
  | referencedTypes indirect =>
    rw [ofTree_eq, ofTreeBy, kindOf_toTree d rfl, ok_bind]
    simp [fieldsOf, Dialect.fields_object, Dialect.optional, ok_bind]
  | referencedTypesInSamePackage indirect scope =>
    rw [ofTree_eq, ofTreeBy, kindOf_toTree d rfl, ok_bind]
    simp [fieldsOf, Dialect.fields_object, Dialect.optional, ok_bind, PackageScope.ofTree_label]
  | allTypesInPackage =>
    rw [ofTree_eq, ofTreeBy, kindOf_toTree d rfl, ok_bind]
    rfl
  | allTypesUnderPackage =>
    rw [ofTree_eq, ofTreeBy, kindOf_toTree d rfl, ok_bind]
    rfl
  | matchingTypes inner matcher ih =>
    rw [ofTree_eq, ofTreeBy, kindOf_toTree d rfl, ok_bind, fieldsOf_matchingTypes]
    simp [Dialect.fields_object, Dialect.required, ok_bind, ih, MatcherConfig.ofTree_toTree]
  | explicitTypes inner included excluded ih =>
    rw [ofTree_eq, ofTreeBy, kindOf_toTree d rfl, ok_bind]
    cases inner with
    | none =>
      -- the inner strategy was left out, and the default puts none in
      simp [fieldsOf, Dialect.fields_object, Dialect.optional, ok_bind]
    | some inner =>
      have hinner : Dialect.option (ofTree .variant) inner.toTree = .ok (some inner) := by
        show (ofTree .variant inner.toTree).map some = _
        rw [ih inner rfl]
        rfl
      rw [fieldsOf_explicitTypes_some]
      simp [Dialect.fields_object, Dialect.optional, ok_bind, hinner]
  | composite children ih =>
    have hchildren := Dialect.variant.list_map (f := toTree) (fun s hs => ih s hs .variant)
    rw [ofTree_eq, ofTreeBy, kindOf_toTree d rfl, ok_bind, fieldsOf_composite]
    simp [Dialect.fields_object, Dialect.required, ok_bind, hchildren]

end StrategyConfig

/-! ### Settings and configurations -/

theorem AnalysisSettings.ofTree_toTree (d : Dialect) {s : AnalysisSettings}
    (h : s.maxTraversalNodes < UInt64.size) : ofTree d s.toTree = .ok s := by
  rw [ofTree, toTree, d.fields_object true (by simp) (by simp), ok_bind]
  simp [Dialect.optional, ok_bind, d.nat_int 64 h, Assignment.ofTree_label]

namespace AnalysisConfig

theorem ofTree_toTree (d : Dialect) {c : AnalysisConfig} (hversion : c.version < UInt32.size)
    (hlimit : c.analysis.maxTraversalNodes < UInt64.size) : ofTree d c.toTree = .ok c := by
  have hstrategies := d.list_map (f := StrategyConfig.toTree) (l := c.strategies)
    (fun s _ => s.ofTree_toTree d)
  rw [ofTree, toTree, d.fields_object true (by simp) (by simp), ok_bind]
  simp [Dialect.required, Dialect.optional, ok_bind, d.nat_int 32 hversion,
    AnalysisSettings.ofTree_toTree d hlimit, hstrategies]

theorem versionOf_toTree (c : AnalysisConfig) : versionOf c.toTree = .ok c.version := rfl

/-- A version that is supported is one that can be read. -/
theorem version_lt_of_checkVersion {found : Nat} (h : checkVersion found = .ok ()) :
    found < UInt32.size := by
  have hmem : found ∈ supportedVersions := by
    by_contra hmem
    rw [checkVersion, if_neg (by simpa using hmem)] at h
    cases h
  rw [List.mem_singleton.1 hmem]
  decide

/-- The tree of a configuration is read as the configuration if it passes the check, and otherwise
it is refused as the check refuses it. -/
theorem ofYamlTree_toTree (c : AnalysisConfig)
    (hlimit : c.analysis.maxTraversalNodes < UInt64.size) :
    ofYamlTree c.toTree = c.validate.map fun _ => c := by
  rw [ofYamlTree, versionOf_toTree, ok_bind]
  cases hversion : checkVersion c.version with
  | error e =>
    -- the version may be too large to be decoded, but the decoder is not asked
    rw [validate, hversion]
    rfl
  | ok _ =>
    rw [ofTree_toTree .configFile (version_lt_of_checkVersion hversion) hlimit]
    show (do c.validate; return c) = _
    cases c.validate <;> rfl

/-- **Configurations survive their text**: a configuration that was written is accepted, as just the
configuration that it was, if it passes the check; otherwise it is refused for what the check finds.
It is taken for granted that the text is read as the tree that was written. -/
theorem ofYaml_toYaml (c : AnalysisConfig)
    (hlimit : c.analysis.maxTraversalNodes < UInt64.size)
    (htext : Tree.ofYaml c.toTree.toYaml = .ok c.toTree) :
    ofYaml c.toYaml = c.validate.map fun _ => c := by
  rw [ofYaml, toYaml, htext]
  exact ofYamlTree_toTree c hlimit

/-- A union of no strategies is refused, however deep it stands. -/
theorem ofYaml_toYaml_empty_union :
    let c : AnalysisConfig :=
      { version := 1
        analysis := { maxTraversalNodes := 7, parallel := false, assignment := .append }
        strategies := [.explicitTypes (some (.composite [])) ∅ (.ofList ["p.X"])] }
    c.analysis.maxTraversalNodes < UInt64.size ∧ Tree.ofYaml c.toTree.toYaml = .ok c.toTree ∧
      ofYaml c.toYaml = .error (.emptyStrategyList "composite strategy") := by
  intro c
  have hlimit : c.analysis.maxTraversalNodes < UInt64.size := by decide
  have htext : Tree.ofYaml c.toTree.toYaml = .ok c.toTree := by
    apply Tree.ofYaml_eq_ok_of_any
    rw [Tree.toYaml, Tree.ofYaml, Yaml.characters_ofList]
    decide +kernel
  exact ⟨hlimit, htext, ofYaml_toYaml c hlimit htext⟩

end AnalysisConfig

end ComponentSupport
