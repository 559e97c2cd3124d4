import ComponentSupport.Document.ConfigFile
import ComponentSupport.Proofs.Form
import ComponentSupport.Proofs.Nesting
import ComponentSupport.Proofs.TreeEquality

/-!
# Unknown fields

The top of a configuration and its settings are read strictly: a document with a key that does not
belong there is refused. The strategies and the matchers are not. Whatever fields stand beside those
that belong in them, at whatever depth, mean nothing, and the document is read as if they were not
there (`AnalysisConfig.ofYaml_trim`). A misspelled option is such a field, so that the default is
used in its place (`AnalysisConfig.not_forall_conforms`).

`Keeps` relates two readers: the second one takes from a trimmed tree what the first one takes from
the tree. Each reader of a configuration has it, by the fields that it finds: those of a trimmed
record are those of the record, trimmed (`Dialect.fields_trim`).
-/

namespace ComponentSupport

/-! ### Keys as they are read -/

theorem Dialect.untag_strip (d : Dialect) (t : Tree) : (d.strip t).untag = t.untag := by
  unfold strip
  split
  · exact t.untag_untag
  · rfl

namespace Part

/-- What stands in the field of a name. -/
def named (parts : List (String × Part)) (name : String) : Part :=
  ((parts.find? (·.1 == name)).map (·.2)).getD .value

variable {parts : List (String × Part)}

theorem named_eq (hnames : (parts.map (·.1)).Nodup) {f : String × Part} (hf : f ∈ parts) :
    named parts f.1 = f.2 := by
  rw [named, Dialect.find?_of_nodup hnames hf]
  rfl

theorem named_eq_value {name : String} (h : ∀ f ∈ parts, f.1 = name → f.2 = .value) :
    named parts name = .value := by
  unfold named
  cases hfind : parts.find? (·.1 == name) with
  | none => rfl
  | some f =>
    exact h f (List.mem_of_find?_eq_some hfind) (by simpa using List.find?_some hfind)

/-- A key that is read as the name of a field is one under which that field stands. -/
theorem under?_of_field? {d : Dialect} (hnames : (parts.map (·.1)).Nodup) {key : Tree}
    {name? : Option String} (h : d.field? (parts.map (·.1)) key = .ok name?) :
    under? parts key = name?.map (named parts) := by
  have hfield : ∀ f? : Option (String × Part), (∀ f ∈ f?, f ∈ parts) →
      f?.map (·.2) = (f?.map (·.1)).map (named parts) := by
    intro f? hf
    cases f? with
    | none => rfl
    | some f => exact congrArg some (named_eq hnames (hf f rfl)).symm
  have huntag := d.untag_strip key
  unfold Dialect.field? at h
  split at h
  · next name hkey =>
    obtain rfl := Except.ok.inj h
    rw [under?, ← huntag, hkey, List.find?_map]
    exact hfield _ fun f hf => List.mem_of_find?_eq_some hf
  · next n hkey =>
    split at h
    · obtain rfl := Except.ok.inj h
      rw [under?, ← huntag, hkey, List.getElem?_map]
      exact hfield _ fun f hf => List.mem_of_getElem? hf
    · cases h
  · cases h

end Part

/-! ### The fields of trimmed records -/

namespace Dialect

variable {α : Type} {d : Dialect} {parts : List (String × Part)} {strict : Bool}
  {before found : List (String × Tree)}

/-- Fields that were found, trimmed. -/
def trimFound (parts : List (String × Part)) (found : List (String × Tree)) :
    List (String × Tree) :=
  found.map fun f => (f.1, f.2.trim (Part.named parts f.1))

theorem find?_trimFound (parts : List (String × Part)) (found : List (String × Tree))
    (name : String) :
    (trimFound parts found).find? (·.1 == name) =
      (found.find? (·.1 == name)).map fun f => (f.1, f.2.trim (Part.named parts name)) := by
  rw [trimFound, List.find?_map]
  show (found.find? (·.1 == name)).map _ = _
  cases hfind : found.find? (·.1 == name) with
  | none => rfl
  | some f =>
    have hname : f.1 = name := by simpa using List.find?_some hfind
    rw [Option.map_some, Option.map_some, hname]

theorem foldlM_addField_trim (hnames : (parts.map (·.1)).Nodup) {fields : List (Tree × Tree)}
    (h : fields.foldlM (d.addField (parts.map (·.1)) strict) before = .ok found) :
    (Tree.trimFields (.fields parts) parts fields).foldlM (d.addField (parts.map (·.1)) strict)
      (trimFound parts before) = .ok (trimFound parts found) := by
  induction fields generalizing before with
  | nil =>
    obtain rfl := Except.ok.inj h
    rfl
  | cons f rest ih =>
    obtain ⟨key, value⟩ := f
    rw [List.foldlM_cons, bind_eq_ok_iff] at h
    obtain ⟨next, hnext, hrest⟩ := h
    rw [Tree.trimFields, Tree.isTag_fields]
    rcases addField_eq_ok_iff.1 hnext with ⟨hname, -, rfl⟩ | ⟨name, hname, hnew, rfl⟩
    · rw [Part.under?_of_field? hnames hname]
      exact ih hrest
    · have hjoins : d.addField (parts.map (·.1)) strict (trimFound parts before)
          (key, value.trim (Part.named parts name)) =
            .ok (trimFound parts (before ++ [(name, value)])) := by
        refine addField_eq_ok_iff.2 (Or.inr ⟨name, hname, fun g hg => ?_, ?_⟩)
        · obtain ⟨f, hf, rfl⟩ := List.mem_map.1 hg
          exact hnew f hf
        · rw [trimFound, List.map_append]
          rfl
      rw [Part.under?_of_field? hnames hname]
      exact bind_eq_ok_iff.2 ⟨_, hjoins, ih hrest⟩

theorem zip_trimItems (hnames : (parts.map (·.1)).Nodup) (items : List Tree) :
    (parts.map (·.1)).zip (Tree.trimItems (parts.map (·.2)) items) =
      trimFound parts ((parts.map (·.1)).zip items) := by
  have hzip : ∀ some : List (String × Part), (∀ f ∈ some, f ∈ parts) → ∀ items : List Tree,
      (some.map (·.1)).zip (Tree.trimItems (some.map (·.2)) items) =
        trimFound parts ((some.map (·.1)).zip items) := by
    intro some
    induction some with
    | nil => exact fun _ _ => rfl
    | cons f rest ih =>
      intro hsome items
      rw [List.forall_mem_cons] at hsome
      cases items with
      | nil => rfl
      | cons t items =>
        simp only [List.map_cons, Tree.trimItems, List.zip_cons_cons, ih hsome.2 items]
        rw [trimFound, trimFound, List.map_cons, Part.named_eq hnames hsome.1]
  exact hzip parts (fun _ => id) items

theorem strip_trim (d : Dialect) (p : Part) (t : Tree) :
    d.strip (t.trim p) = (d.strip t).trim p := by
  unfold strip
  split
  · exact Tree.untag_trim p t
  · rfl

/-- The fields that are found in a trimmed record are those that are found in the record,
trimmed. -/
theorem fields_trim (hnames : (parts.map (·.1)).Nodup) {t : Tree}
    (h : d.fields (parts.map (·.1)) strict t = .ok found) :
    d.fields (parts.map (·.1)) strict (t.trim (.fields parts)) = .ok (trimFound parts found) := by
  unfold fields at h ⊢
  rw [strip_trim]
  split at h
  · next fields ht =>
    rw [ht]
    exact foldlM_addField_trim hnames h
  · next items ht =>
    split at h
    · next hlength =>
      obtain rfl := Except.ok.inj h
      rw [← Tree.length_trimItems (parts.map (·.2))] at hlength
      rw [ht, ← zip_trimItems hnames items]
      exact if_pos hlength
    · cases h
  · next ht =>
    split at h
    · next hnull =>
      obtain rfl := Except.ok.inj h
      rw [ht]
      exact if_pos hnull
    · cases h
  · cases h

/-! ### Readers of trimmed trees -/

/-- What one reader takes from a tree, another one takes from the trimmed tree. -/
def Keeps (p : Part) (read read' : Tree → Except DecodeError α) : Prop :=
  ∀ t x, read t = .ok x → read' (t.trim p) = .ok x

variable {read read' : Tree → Except DecodeError α} {name : String} {x : α}

theorem required_trimFound (hread : Keeps (Part.named parts name) read read')
    (h : required found name read = .ok x) :
    required (trimFound parts found) name read' = .ok x := by
  unfold required at h ⊢
  rw [find?_trimFound]
  cases hfind : found.find? (·.1 == name) with
  | none =>
    rw [hfind] at h
    cases h
  | some f =>
    rw [hfind] at h
    exact hread f.2 x h

theorem optional_trimFound {default : α} (hread : Keeps (Part.named parts name) read read')
    (h : optional found name default read = .ok x) :
    optional (trimFound parts found) name default read' = .ok x := by
  unfold optional at h ⊢
  rw [find?_trimFound]
  cases hfind : found.find? (·.1 == name) with
  | none =>
    rw [hfind] at h
    exact h
  | some f =>
    rw [hfind] at h
    exact hread f.2 x h

theorem Keeps.value (read : Tree → Except DecodeError α) : Keeps .value read read := by
  intro t x h
  rwa [Tree.trim_value]

theorem option_of_ne_null {t : Tree} (h : t ≠ .null) : option read t = (read t).map some := by
  unfold option
  split
  · exact absurd rfl h
  · rfl

theorem Keeps.option {p : Part} (h : Keeps p read read') :
    Keeps p (option read) (option read') := by
  intro t x ht
  by_cases hnull : t = .null
  · subst hnull
    cases p <;> exact ht
  · have hnull' : t.trim p ≠ .null := by
      cases t <;> cases p <;> simp [Tree.trim] at hnull ⊢
    rw [option_of_ne_null hnull, map_eq_ok_iff] at ht
    obtain ⟨a, ha, rfl⟩ := ht
    rw [option_of_ne_null hnull', h t a ha]
    rfl

theorem Keeps.list (h : Keeps .strategy read read') (d : Dialect) :
    Keeps .strategies (d.list read) (d.list read') := by
  intro t xs ht
  unfold Dialect.list at ht ⊢
  rw [strip_trim]
  split at ht
  · next items hitems =>
    rw [hitems]
    show (Tree.trimItems (items.map fun _ => .strategy) items).mapM read' = .ok xs
    rw [Tree.trimItems_map, mapM_eq_ok_iff, List.forall₂_map_left_iff]
    exact (mapM_eq_ok_iff.1 ht).imp h
  · next hnull =>
    rw [hnull]
    exact ht
  · cases ht

/-! ### Kinds of trimmed variants -/

/-- The fields of a kind, however the kind was stated. -/
theorem stated_of_pickKey {kinds : List (String × α)} {parts : α → List (String × Part)} {t : Tree}
    {kind : α} (h : d.pickKey kinds (d.strip t) = .ok kind) :
    Part.stated kinds parts t = parts kind := by
  have hpick : variant.pickKey kinds t.untag = .ok kind := by
    rw [← d.untag_strip]
    cases hshape : d.strip t with
    | text name =>
      rw [hshape] at h
      exact h
    | int n =>
      rw [hshape] at h
      cases n with
      | ofNat n =>
        cases hchoice : kinds[n]? with
        | none => simp [pickKey, hchoice] at h
        | some choice =>
          simp only [pickKey, hchoice, Tree.untag] at h ⊢
          by_cases hindex : d.byIndex = true
          · rw [if_pos hindex] at h
            exact h
          · rw [if_neg hindex] at h
            cases h
      | negSucc n => cases h
    | _ =>
      rw [hshape] at h
      cases h
  rw [Part.stated, hpick]

theorem kindOf_trim {p : Part} {tag : String} (htag : p.tag? = some tag)
    {kinds : List (String × α)} {t content : Tree} {kind : α}
    (h : d.kindOf tag kinds t = .ok (kind, content)) (hparts : p.partsOf t = parts) :
    d.kindOf tag kinds (t.trim p) = .ok (kind, content.trim (.fields parts)) := by
  obtain ⟨stated, hvariant, hkind, htags⟩ := kindOf_eq_ok_iff.1 h
  refine kindOf_eq_ok_iff.2 ⟨stated, ?_, hkind, Tree.hasTag_trim _ htags⟩
  rw [Tree.variant_trim htag, hvariant, hparts]
  rfl

end Dialect

open Dialect

namespace MatcherConfig

theorem partsOf_of_kindOf {d : Dialect} {t content : Tree} {kind : Kind}
    (h : d.kindOf "type" kinds t = .ok (kind, content)) :
    Part.matcher.partsOf t = kind.parts := by
  obtain ⟨stated, hvariant, hkind, -⟩ := kindOf_eq_ok_iff.1 h
  rw [Part.partsOf, hvariant]
  exact stated_of_pickKey hkind

theorem keeps_ofTree (d : Dialect) : Keeps .matcher (ofTree d) (ofTree d) := by
  intro t m h
  obtain ⟨⟨kind, content⟩, hkind, h⟩ := bind_eq_ok_iff.1 h
  refine bind_eq_ok_iff.2 ⟨_, kindOf_trim rfl hkind (partsOf_of_kindOf hkind), ?_⟩
  cases kind with
  | nameSuffix =>
    simp only [bind_eq_ok_iff, pure_eq_ok_iff] at h ⊢
    obtain ⟨found, hfound, suffix, hsuffix, rfl⟩ := h
    exact ⟨_, fields_trim (by decide) hfound,
      suffix, required_trimFound (.value _) hsuffix, rfl⟩
  | regex =>
    simp only [bind_eq_ok_iff, pure_eq_ok_iff] at h ⊢
    obtain ⟨found, hfound, pattern, hpattern, rfl⟩ := h
    exact ⟨_, fields_trim (by decide) hfound,
      pattern, required_trimFound (.value _) hpattern, rfl⟩
  | annotated =>
    simp only [bind_eq_ok_iff, pure_eq_ok_iff] at h ⊢
    obtain ⟨found, hfound, a, ha, rfl⟩ := h
    exact ⟨_, fields_trim (by decide) hfound, a, required_trimFound (.value _) ha, rfl⟩

end MatcherConfig

namespace StrategyConfig

theorem partsOf_of_kindOf {d : Dialect} {t content : Tree} {kind : Kind}
    (h : d.kindOf "kind" kinds t = .ok (kind, content)) :
    Part.strategy.partsOf t = kind.parts := by
  obtain ⟨stated, hvariant, hkind, -⟩ := kindOf_eq_ok_iff.1 h
  rw [Part.partsOf, hvariant]
  exact stated_of_pickKey hkind

theorem noFields_trim {s made : StrategyConfig} {content : Tree}
    (h : s.noFields content = .ok made) : s.noFields (content.trim (.fields [])) = .ok made := by
  cases content with
  | list items =>
    cases items with
    | nil => exact h
    | cons _ _ => cases h
  | _ => exact h

/-- One level of reading: the strategies inside a trimmed strategy are those inside it, trimmed. -/
theorem keeps_ofTreeBy {read read' : Tree → Except DecodeError StrategyConfig}
    (hread : Keeps .strategy read read') (d : Dialect) :
    Keeps .strategy (ofTreeBy read d) (ofTreeBy read' d) := by
  intro t s h
  obtain ⟨⟨kind, content⟩, hkind, h⟩ := bind_eq_ok_iff.1 h
  refine bind_eq_ok_iff.2 ⟨_, kindOf_trim rfl hkind (partsOf_of_kindOf hkind), ?_⟩
  cases kind with
  | referencedTypes =>
    simp only [bind_eq_ok_iff, pure_eq_ok_iff] at h ⊢
    obtain ⟨found, hfound, indirect, hindirect, rfl⟩ := h
    exact ⟨_, fields_trim (by decide) hfound,
      indirect, optional_trimFound (.value _) hindirect, rfl⟩
  | referencedTypesInSamePackage =>
    simp only [bind_eq_ok_iff, pure_eq_ok_iff] at h ⊢
    obtain ⟨found, hfound, indirect, hindirect, scope, hscope, rfl⟩ := h
    exact ⟨_, fields_trim (by decide) hfound,
      indirect, optional_trimFound (.value _) hindirect,
      scope, optional_trimFound (.value _) hscope, rfl⟩
  | allTypesInPackage => exact noFields_trim h
  | allTypesUnderPackage => exact noFields_trim h
  | matchingTypes =>
    simp only [bind_eq_ok_iff, pure_eq_ok_iff] at h ⊢
    obtain ⟨found, hfound, inner, hinner, matcher, hmatcher, rfl⟩ := h
    exact ⟨_, fields_trim (by decide) hfound,
      inner, required_trimFound hread hinner,
      matcher, required_trimFound (MatcherConfig.keeps_ofTree _) hmatcher, rfl⟩
  | explicitTypes =>
    simp only [bind_eq_ok_iff, pure_eq_ok_iff] at h ⊢
    obtain ⟨found, hfound, inner, hinner, included, hincluded, excluded, hexcluded, rfl⟩ := h
    exact ⟨_, fields_trim (by decide) hfound,
      inner, optional_trimFound hread.option hinner,
      included, optional_trimFound (.value _) hincluded,
      excluded, optional_trimFound (.value _) hexcluded, rfl⟩
  | composite =>
    simp only [bind_eq_ok_iff, pure_eq_ok_iff] at h ⊢
    obtain ⟨found, hfound, children, hchildren, rfl⟩ := h
    exact ⟨_, fields_trim (by decide) hfound,
      children, required_trimFound (hread.list _) hchildren, rfl⟩

theorem keeps_ofTreeWithin (depth : Nat) (d : Dialect) :
    Keeps .strategy (ofTreeWithin depth d) (ofTree d) := by
  induction depth generalizing d with
  | zero => exact fun t s h => nomatch h
  | succ depth ih =>
    intro t s h
    rw [ofTree_eq]
    exact keeps_ofTreeBy (ih .variant) d t s h

/-- A strategy is read from a trimmed tree as it is from the tree. -/
theorem keeps_ofTree (d : Dialect) : Keeps .strategy (ofTree d) (ofTree d) := fun t =>
  keeps_ofTreeWithin t.height d t

end StrategyConfig

/-! ### Strict readers -/

namespace Dialect

variable {d : Dialect} {parts : List (String × Part)} {before found : List (String × Tree)}

theorem fieldsConform_of_foldlM (hnames : (parts.map (·.1)).Nodup) {fields : List (Tree × Tree)}
    (h : fields.foldlM (d.addField (parts.map (·.1)) true) before = .ok found)
    (hfound : ∀ f ∈ found, f.2.conforms (Part.named parts f.1) = true) :
    Tree.fieldsConform (.fields parts) parts fields = true := by
  induction fields generalizing before with
  | nil => rfl
  | cons f rest ih =>
    obtain ⟨key, value⟩ := f
    rw [List.foldlM_cons, bind_eq_ok_iff] at h
    obtain ⟨next, hnext, h⟩ := h
    rcases addField_eq_ok_iff.1 hnext with ⟨-, hstrict, -⟩ | ⟨name, hname, -, rfl⟩
    · cases hstrict
    · have hvalue := hfound (name, value) (mem_foldlM_addField h (by simp))
      rw [Tree.fieldsConform, Part.under?_of_field? hnames hname, ih h]
      simp [hvalue]

/-- What is read strictly conforms, if the values of its fields do. -/
theorem conforms_of_fields (hpositional : d.positional = false) (hnames : (parts.map (·.1)).Nodup)
    {t : Tree} (h : d.fields (parts.map (·.1)) true t = .ok found)
    (hfound : ∀ f ∈ found, f.2.conforms (Part.named parts f.1) = true) :
    t.conforms (.fields parts) = true := by
  rw [← Tree.conforms_untag, ← d.untag_strip, Tree.conforms_untag]
  unfold fields at h
  split at h
  · next fields ht =>
    rw [ht]
    exact fieldsConform_of_foldlM hnames h hfound
  · rw [hpositional] at h
    cases h
  · next ht =>
    rw [ht]
    rfl
  · cases h

end Dialect

namespace AnalysisSettings

theorem keeps_ofTree (d : Dialect) : Keeps .settings (ofTree d) (ofTree d) := by
  intro t s h
  simp only [ofTree, bind_eq_ok_iff, pure_eq_ok_iff] at h ⊢
  obtain ⟨found, hfound, limit, hlimit, parallel, hparallel, assignment, hassignment, rfl⟩ := h
  exact ⟨_, fields_trim (by decide) hfound,
    limit, optional_trimFound (.value _) hlimit,
    parallel, optional_trimFound (.value _) hparallel,
    assignment, optional_trimFound (.value _) hassignment, rfl⟩

theorem conforms_of_ofTree {d : Dialect} (hpositional : d.positional = false) {t : Tree}
    {s : AnalysisSettings} (h : ofTree d t = .ok s) : t.conforms .settings = true := by
  rw [ofTree, bind_eq_ok_iff] at h
  obtain ⟨found, hfound, -⟩ := h
  refine conforms_of_fields hpositional (by decide) hfound fun f _ => ?_
  rw [Part.named_eq_value (by simp), Tree.conforms]

end AnalysisSettings

namespace AnalysisConfig

theorem keeps_ofTree (d : Dialect) : Keeps .document (ofTree d) (ofTree d) := by
  intro t s h
  simp only [ofTree, bind_eq_ok_iff, pure_eq_ok_iff] at h ⊢
  obtain ⟨found, hfound, version, hversion, analysis, hanalysis, strategies, hstrategies, rfl⟩ := h
  exact ⟨_, fields_trim (by decide) hfound,
    version, required_trimFound (.value _) hversion,
    analysis, optional_trimFound (AnalysisSettings.keeps_ofTree d) hanalysis,
    strategies, optional_trimFound ((StrategyConfig.keeps_ofTree d).list d) hstrategies, rfl⟩

theorem conforms_of_ofTree {d : Dialect} (hpositional : d.positional = false) {t : Tree}
    {c : AnalysisConfig} (h : ofTree d t = .ok c) : t.conforms .outline = true := by
  simp only [ofTree, bind_eq_ok_iff] at h
  obtain ⟨found, hfound, -, -, analysis, hanalysis, -⟩ := h
  refine conforms_of_fields hpositional (by decide) hfound fun f hf => ?_
  by_cases hname : f.1 = "analysis"
  · rw [← hname, optional_of_mem (nodup_fields hpositional hfound) hf] at hanalysis
    rw [hname]
    exact AnalysisSettings.conforms_of_ofTree hpositional hanalysis
  · rw [Part.named_eq_value (by simp [Ne.symm hname]), Tree.conforms]

theorem versionOf_trim (t : Tree) : versionOf (t.trim .document) = versionOf t := by
  have hget : (t.trim .document).get? "version" = t.get? "version" := by
    rw [Tree.get?, Tree.get?, Tree.untag_trim]
    cases t.untag with
    | record fields =>
      refine congrArg (Option.map (·.2)) (Tree.find?_trimFields _ fields ?_)
      rfl
    | _ => rfl
  rw [versionOf, hget, versionOf]

theorem ofYamlTree_trim {t : Tree} {c : AnalysisConfig} (h : ofYamlTree t = .ok c) :
    t.conforms .outline = true ∧ ofYamlTree (t.trim .document) = .ok c := by
  rw [ofYamlTree, bind_eq_ok_iff] at h
  obtain ⟨version, hversion, h⟩ := h
  obtain ⟨hsupported, h⟩ := check_bind_eq_ok_iff.1 h
  obtain ⟨read, hread, h⟩ := bind_eq_ok_iff.1 h
  have hread := mapError_eq_ok_iff.1 hread
  constructor
  · exact conforms_of_ofTree rfl hread
  · rw [ofYamlTree, versionOf_trim, hversion, ok_bind, hsupported, ok_bind,
      keeps_ofTree _ t read hread]
    exact h

/-! ### Documents that are accepted -/

/-- **What the keys of an accepted document are**: at the top and in the settings, every key belongs
where it stands. In the strategies and the matchers a key need not, but then its field means
nothing: the document without all such fields, whose keys all belong where they stand, is accepted
as the same configuration. -/
theorem ofYaml_trim {text : String} {c : AnalysisConfig} (h : ofYaml text = .ok c) :
    ∃ t, Tree.ofYaml text = .ok t ∧ t.conforms .outline = true ∧
      (t.trim .document).conforms .document = true ∧ ofYamlTree (t.trim .document) = .ok c := by
  rw [ofYaml, bind_eq_ok_iff] at h
  obtain ⟨t, htext, h⟩ := h
  obtain ⟨houtline, hread⟩ := ofYamlTree_trim h
  exact ⟨t, mapError_eq_ok_iff.1 htext, houtline, t.conforms_trim .document, hread⟩

/-- A document with an option whose name is misspelled. -/
def misspelled : String :=
  "version: 1\nstrategies:\n- kind: referenced_types\n  include_indirects: false\n"

/-- The tree of the document. -/
def misspelledTree : Tree :=
  .object [("version", .int 1), ("strategies", .list [
    .object [("kind", .text "referenced_types"), ("include_indirects", .bool false)]])]

/-- The configuration that the document is read as; the option has its default. -/
def misspelledConfig : AnalysisConfig := { version := 1, strategies := [.referencedTypes true] }

theorem tree_misspelled : Tree.ofYaml misspelled = .ok misspelledTree :=
  Tree.ofYaml_eq_ok_of_any (by decide +kernel)

theorem ofYaml_misspelled : ofYaml misspelled = .ok misspelledConfig := by
  rw [ofYaml, tree_misspelled]
  rfl

/-- The option that is misspelled means nothing. -/
theorem ofYaml_trim_misspelled :
    ofYaml misspelled = .ok misspelledConfig ∧
      ∃ t, Tree.ofYaml misspelled = .ok t ∧ t.conforms .outline = true ∧
        (t.trim .document).conforms .document = true ∧
        ofYamlTree (t.trim .document) = .ok misspelledConfig :=
  ⟨ofYaml_misspelled, ofYaml_trim ofYaml_misspelled⟩

/-- Not every document that is accepted has only keys that belong where they stand. -/
theorem not_forall_conforms :
    ¬ ∀ (text : String) (c : AnalysisConfig) (t : Tree), ofYaml text = .ok c →
      Tree.ofYaml text = .ok t → t.conforms .document = true := by
  intro h
  have hconforms := h misspelled misspelledConfig misspelledTree ofYaml_misspelled tree_misspelled
  have hnot : misspelledTree.conforms .document = false := by decide
  rw [hnot] at hconforms
  cases hconforms

end AnalysisConfig

end ComponentSupport
