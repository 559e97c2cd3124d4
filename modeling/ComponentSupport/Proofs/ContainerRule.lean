import ComponentSupport.Architecture.Container
import ComponentSupport.Proofs.Results
import Mathlib.Data.List.Nodup
import Mathlib.Data.List.Pairwise

/-!
# The rule of a container

`Container.Valid` states the rule of a container once, as a property of the container as a whole.
`Container.validate` checks just this (`Container.validate_eq_ok_iff`), and the check of a new
component (`Container.checkNew_eq_ok_iff`) is its share of the rule: that it can stand beside each of
the old ones (`Component.Compatible`). The rule of the longer container is the rule of the shorter one
with this share, except for one thing that the check leaves to the maker of the component, that it does
not support itself (`Container.valid_concat_iff`).
-/

namespace ComponentSupport

/-- The name and the primary type of a component are not blank. -/
def Component.Named (k : Component) : Prop :=
  Text.isBlank k.name = false ∧ Text.isBlank k.primaryType = false

/-- Two components differ by name and by primary type. -/
def Component.Distinct (k other : Component) : Prop :=
  k.name ≠ other.name ∧ k.primaryType ≠ other.primaryType

/-- Neither component has the primary type of the other among its supporting types. -/
def Component.Apart (k other : Component) : Prop :=
  other.primaryType ∉ k.supportingTypes ∧ k.primaryType ∉ other.supportingTypes

/-- Two components can stand in one container. -/
def Component.Compatible (k other : Component) : Prop :=
  k.Distinct other ∧ k.Apart other

instance : Std.Symm Component.Apart := ⟨fun _ _ h => ⟨h.2, h.1⟩⟩

theorem Component.Compatible.symm {k other : Component} (h : k.Compatible other) :
    other.Compatible k :=
  ⟨⟨h.1.1.symm, h.1.2.symm⟩, h.2.2, h.2.1⟩

namespace Container

/-- The rule of a container. -/
structure Valid (c : Container) : Prop where
  /-- The container has a name. -/
  name : Text.isBlank c.name = false
  /-- So have its components, and primary types. -/
  named : ∀ k ∈ c.components, k.Named
  /-- No name occurs twice. -/
  names : (c.components.map (·.name)).Nodup
  /-- No primary type occurs twice. -/
  primaryTypes : (c.components.map (·.primaryType)).Nodup
  /-- No primary type supports a component. -/
  apart : ∀ k ∈ c.components, ∀ other ∈ c.components, other.primaryType ∉ k.supportingTypes

/-! ### The single checks -/

theorem checkIdentifiers_eq_ok_iff (k : Component) : checkIdentifiers k = .ok () ↔ k.Named := by
  unfold checkIdentifiers Component.Named
  split
  · next h => simp [h]
  · next h =>
    split
    · next h' => simp [h']
    · next h' => simp [h, h']

theorem checkFresh_eq_ok_iff (parent : String) (others : List Component) (k : Component) :
    checkFresh parent others k = .ok () ↔ k.Named ∧ ∀ other ∈ others, other.Distinct k := by
  unfold checkFresh
  rw [check_bind_eq_ok_iff, checkIdentifiers_eq_ok_iff, guard_eq_ok_iff]
  refine and_congr_right fun _ => ?_
  cases hfind : others.find? (·.primaryType == k.primaryType) with
  | none =>
    simp only [List.find?_eq_none, beq_iff_eq] at hfind
    simp only [List.any_eq_true, beq_iff_eq, not_exists, not_and, pure_eq_ok_iff, and_true,
      Component.Distinct]
    exact ⟨fun h other ho => ⟨h other ho, hfind other ho⟩, fun h other ho => (h other ho).1⟩
  | some owner =>
    have howner := List.find?_some hfind
    simp only [beq_iff_eq] at howner
    simp only [throw_eq_ok_iff, and_false, false_iff]
    exact fun h => (h owner (List.mem_of_find?_eq_some hfind)).2 howner

/-- No listed type has an owner when no component has its primary type in the list. -/
theorem owner?_eq_none_iff (components : List Component) (types : List String) :
    owner? components types = none ↔ ∀ k ∈ components, k.primaryType ∉ types := by
  simp only [owner?, List.findSome?_eq_none_iff, Option.map_eq_none_iff, List.find?_eq_none,
    beq_iff_eq]
  exact ⟨fun h k hk hmem => h _ hmem k hk rfl, fun h type htype k hk heq => h k hk (heq ▸ htype)⟩

/-- An owner that is found is one of the components, and its primary type is listed. -/
theorem owner?_eq_some {components : List Component} {types : List String} {type owner : String}
    (h : owner? components types = some (type, owner)) :
    ∃ k ∈ components, k.primaryType = type ∧ k.name = owner ∧ type ∈ types := by
  obtain ⟨type', htype', hfound⟩ := List.exists_of_findSome?_eq_some h
  obtain ⟨k, hfind, heq⟩ := Option.map_eq_some_iff.1 hfound
  simp only [Prod.mk.injEq] at heq
  obtain ⟨rfl, rfl⟩ := heq
  exact ⟨k, List.mem_of_find?_eq_some hfind, by simpa using List.find?_some hfind, rfl, htype'⟩

/-- What the check of a new component asks for. -/
theorem checkNew_eq_ok_iff (c : Container) (k : Component) :
    c.checkNew k = .ok () ↔
      k.Named ∧ (∀ other ∈ c.components, other.Distinct k) ∧
      (∀ other ∈ c.components, k.primaryType ∉ other.supportingTypes) ∧
      ∀ other ∈ c.components, other.primaryType ∉ k.supportingTypes := by
  unfold checkNew
  rw [check_bind_eq_ok_iff, checkFresh_eq_ok_iff, and_assoc]
  refine and_congr_right fun _ => and_congr_right fun _ => ?_
  have howned := owner?_eq_none_iff c.components k.supportingTypes.toList
  cases hfind : c.components.find? (k.primaryType ∈ ·.supportingTypes) with
  | none =>
    simp only [List.find?_eq_none, decide_eq_true_eq] at hfind
    rw [and_iff_right hfind]
    cases howner : owner? c.components k.supportingTypes.toList with
    | none => exact iff_of_true rfl (howned.1 howner)
    | some found => exact iff_of_false (fun h => nomatch h) fun h => nomatch howner ▸ howned.2 h
  | some holder =>
    have hholder := List.find?_some hfind
    simp only [decide_eq_true_eq] at hholder
    refine iff_of_false (fun h => nomatch h) fun h => ?_
    exact h.1 holder (List.mem_of_find?_eq_some hfind) hholder

/-! ### The checks of the whole -/

theorem checkComponents_eq_ok_iff (parent : String) (before rest : List Component) :
    checkComponents parent before rest = .ok () ↔
      (∀ k ∈ rest, k.Named) ∧ (∀ k ∈ rest, ∀ other ∈ before, other.Distinct k) ∧
      rest.Pairwise Component.Distinct := by
  induction rest generalizing before with
  | nil => simp [checkComponents]
  | cons k rest ih =>
    rw [checkComponents, check_bind_eq_ok_iff, checkFresh_eq_ok_iff, ih]
    simp only [List.forall_mem_cons, List.mem_append, List.mem_singleton, List.pairwise_cons]
    constructor
    · rintro ⟨⟨hk, hbefore⟩, hrest, hdistinct, hpair⟩
      exact ⟨⟨hk, hrest⟩, ⟨hbefore, fun k' hk' other ho => hdistinct k' hk' other (Or.inl ho)⟩,
        fun k' hk' => hdistinct k' hk' k (Or.inr rfl), hpair⟩
    · rintro ⟨⟨hk, hrest⟩, ⟨hbefore, hdistinct⟩, hhead, hpair⟩
      refine ⟨⟨hk, hbefore⟩, hrest, fun k' hk' other ho => ?_, hpair⟩
      rcases ho with ho | rfl
      · exact hdistinct k' hk' other ho
      · exact hhead k' hk'

theorem checkSupportingTypes_eq_ok_iff (all : List Component) (k : Component) :
    checkSupportingTypes all k = .ok () ↔
      k.primaryType ∉ k.supportingTypes ∧ ∀ other ∈ all, other.primaryType ∉ k.supportingTypes := by
  unfold checkSupportingTypes
  rw [guard_eq_ok_iff]
  refine and_congr_right fun _ => ?_
  have howned := owner?_eq_none_iff all k.supportingTypes.toList
  cases howner : owner? all k.supportingTypes.toList with
  | none => exact iff_of_true rfl (howned.1 howner)
  | some found => exact iff_of_false (fun h => nomatch h) fun h => nomatch howner ▸ howned.2 h

theorem pairwise_distinct_iff (components : List Component) :
    components.Pairwise Component.Distinct ↔
      (components.map (·.name)).Nodup ∧ (components.map (·.primaryType)).Nodup := by
  unfold List.Nodup
  rw [List.pairwise_map, List.pairwise_map, ← List.pairwise_and_iff]
  rfl

/-- **Validation**: a container passes when it keeps the rule. -/
theorem validate_eq_ok_iff (c : Container) : c.validate = .ok () ↔ c.Valid := by
  unfold validate
  rw [guard_eq_ok_iff, check_bind_eq_ok_iff, checkComponents_eq_ok_iff, forM_eq_ok_iff,
    pairwise_distinct_iff, Bool.not_eq_true]
  simp only [checkSupportingTypes_eq_ok_iff]
  constructor
  · rintro ⟨hname, ⟨hnamed, -, hnames, hprimary⟩, hapart⟩
    exact ⟨hname, hnamed, hnames, hprimary, fun k hk => (hapart k hk).2⟩
  · intro h
    exact ⟨h.name, ⟨h.named, fun _ _ _ ho => absurd ho List.not_mem_nil, h.names, h.primaryTypes⟩,
      fun k hk => ⟨h.apart k hk k hk, h.apart k hk⟩⟩

/-- The rule component by component and pair by pair. -/
theorem valid_iff_pairwise (c : Container) :
    c.Valid ↔ Text.isBlank c.name = false ∧
      (∀ k ∈ c.components, k.Named ∧ k.primaryType ∉ k.supportingTypes) ∧
      c.components.Pairwise Component.Compatible := by
  have hpairs : c.components.Pairwise Component.Compatible ↔
      c.components.Pairwise Component.Distinct ∧ c.components.Pairwise Component.Apart :=
    List.pairwise_and_iff
  rw [hpairs, pairwise_distinct_iff]
  constructor
  · intro h
    have hapart : c.components.Pairwise Component.Apart :=
      List.pairwise_of_forall_mem_list fun k hk other ho => ⟨h.apart k hk other ho, h.apart other ho k hk⟩
    exact ⟨h.name, fun k hk => ⟨h.named k hk, h.apart k hk k hk⟩, ⟨h.names, h.primaryTypes⟩, hapart⟩
  · rintro ⟨hname, hsingle, ⟨hnames, hprimary⟩, hapart⟩
    have hall : ∀ k ∈ c.components, ∀ other ∈ c.components, k.Apart other :=
      fun k hk other ho =>
        hapart.forall_of_forall (fun k hk => ⟨(hsingle k hk).2, (hsingle k hk).2⟩) hk ho
    exact ⟨hname, fun k hk => (hsingle k hk).1, hnames, hprimary,
      fun k hk other ho => (hall k hk other ho).1⟩

/-- The share of the last component in the rule. -/
theorem valid_concat_iff (c : Container) (k : Component) :
    ({ c with components := c.components ++ [k] } : Container).Valid ↔
      c.Valid ∧ k.Named ∧ (∀ other ∈ c.components, other.Compatible k) ∧
        k.primaryType ∉ k.supportingTypes := by
  rw [valid_iff_pairwise, valid_iff_pairwise, List.pairwise_append]
  simp only [List.forall_mem_append, List.mem_singleton, forall_eq, List.pairwise_singleton, true_and]
  constructor
  · rintro ⟨hname, ⟨hsingle, hnamed, hself⟩, hpairs, hnew⟩
    exact ⟨⟨hname, hsingle, hpairs⟩, hnamed, hnew, hself⟩
  · rintro ⟨⟨hname, hsingle, hpairs⟩, hnamed, hnew, hself⟩
    exact ⟨hname, ⟨hsingle, hnamed, hself⟩, hpairs, hnew⟩

/-! ### Adding a component -/

/-- A component is added if it passes the check, and otherwise nothing happens. -/
theorem insert_cases (c : Container) (k : Component) :
    (c.checkNew k = .ok () ∧ c.insert k = ({ c with components := c.components ++ [k] }, .ok ())) ∨
      ∃ e, c.checkNew k = .error e ∧ c.insert k = (c, .error e) := by
  unfold insert
  cases c.checkNew k with
  | ok _ => exact Or.inl ⟨rfl, rfl⟩
  | error e => exact Or.inr ⟨e, rfl, rfl⟩

/-- The check of a new component looks at its names, and at each old component beside it. -/
theorem checkNew_eq_ok_iff_compatible (c : Container) (k : Component) :
    c.checkNew k = .ok () ↔ k.Named ∧ ∀ other ∈ c.components, other.Compatible k := by
  rw [checkNew_eq_ok_iff]
  refine and_congr_right fun _ => ?_
  constructor
  · rintro ⟨hdistinct, hsupported, hsupports⟩ other ho
    exact ⟨hdistinct other ho, hsupported other ho, hsupports other ho⟩
  · intro h
    exact ⟨fun other ho => (h other ho).1, fun other ho => (h other ho).2.1,
      fun other ho => (h other ho).2.2⟩

/-- One component is added when its names are not blank and it fits beside each of the others. -/
theorem insert_eq_ok_iff {c after : Container} {k : Component} :
    c.insert k = (after, .ok ()) ↔
      k.Named ∧ (∀ other ∈ c.components, other.Compatible k) ∧
        after = { c with components := c.components ++ [k] } := by
  rw [← and_assoc, ← checkNew_eq_ok_iff_compatible]
  rcases c.insert_cases k with ⟨hcheck, hinsert⟩ | ⟨e, hcheck, hinsert⟩
  · rw [hinsert, hcheck, Prod.mk.injEq]
    exact ⟨fun h => ⟨rfl, h.1.symm⟩, fun h => ⟨h.2.symm, rfl⟩⟩
  · rw [hinsert, hcheck]
    refine iff_of_false (fun h => ?_) fun h => nomatch h.1
    cases congrArg Prod.snd h

theorem Valid.insert {c : Container} {k : Component} (h : c.Valid)
    (hself : k.primaryType ∉ k.supportingTypes) : (c.insert k).1.Valid := by
  rcases c.insert_cases k with ⟨hcheck, hinsert⟩ | ⟨e, -, hinsert⟩
  · obtain ⟨hnamed, hcompatible⟩ := (c.checkNew_eq_ok_iff_compatible k).1 hcheck
    rw [hinsert]
    exact (c.valid_concat_iff k).2 ⟨h, hnamed, hcompatible, hself⟩
  · rw [hinsert]
    exact h

/-! ### Writing supporting types -/

/-- The component that a name means is the first of that name. -/
theorem component?_eq_some_iff {c : Container} {name : String} {k : Component} :
    c.component? name = some k ↔
      k.name = name ∧ ∃ before after, c.components = before ++ k :: after ∧
        ∀ other ∈ before, other.name ≠ name := by
  simp [component?, List.find?_eq_some_iff_append]

theorem component?_eq_none_iff {c : Container} {name : String} :
    c.component? name = none ↔ ∀ k ∈ c.components, k.name ≠ name := by
  simp [component?]

/-- A change by name leaves the component that is meant in its place among the others. -/
theorem update_of_components_eq {c : Container} {name : String} {before after : List Component}
    {k : Component} (hc : c.components = before ++ k :: after)
    (hbefore : ∀ other ∈ before, other.name ≠ name) (hname : k.name = name)
    (f : Component → Component) :
    c.update name f = { c with components := before ++ f k :: after } := by
  have hbefore' : ∀ other ∈ before, (other.name == name) = false := fun other ho => by
    simpa using hbefore other ho
  rw [update, hc, updateFirst_append_cons hbefore' (beq_iff_eq.2 hname)]

/-- Types without a conflict are no primary types of siblings. -/
theorem conflict?_eq_none_iff (c : Container) (name : String) (types : List String) :
    c.conflict? name types = none ↔
      ∀ k ∈ c.components, k.name ≠ name → k.primaryType ∉ types := by
  unfold conflict? siblings
  rw [owner?_eq_none_iff]
  simp only [List.mem_reverse, List.mem_filter, bne_iff_ne, and_imp]

theorem conflict?_eq_some {c : Container} {name : String} {types : List String}
    {type owner : String} (h : c.conflict? name types = some (type, owner)) :
    ∃ k ∈ c.components, k.name ≠ name ∧ k.primaryType = type ∧ k.name = owner ∧ type ∈ types := by
  obtain ⟨k, hk, htype, howner, hmem⟩ := owner?_eq_some h
  simp only [siblings, List.mem_reverse, List.mem_filter, bne_iff_ne] at hk
  exact ⟨k, hk.1, hk.2, htype, howner, hmem⟩

/-- The conflicts of a container are decided by the names and primary types of its components. -/
theorem conflict?_congr {c d : Container}
    (h : d.components.map (fun k => (k.name, k.primaryType)) =
      c.components.map fun k => (k.name, k.primaryType)) (name : String) (types : List String) :
    d.conflict? name types = c.conflict? name types := by
  have hpairs : ∀ e : Container, e.conflict? name types = types.findSome? fun type =>
      ((((e.components.map fun k => (k.name, k.primaryType)).filter (·.1 != name)).reverse.find?
        (·.2 == type)).map fun pair => (type, pair.1)) := by
    intro e
    simp only [conflict?, owner?, siblings, List.filter_map, ← List.map_reverse, List.find?_map,
      Option.map_map]
    rfl
  rw [hpairs, hpairs, h]

/-- Types are written if they have no conflict and the component is there, and otherwise nothing
happens. -/
theorem assign_cases (c : Container) (name : String) (types : List String) (mode : Assignment) :
    (c.conflict? name types = none ∧ (∃ k, c.component? name = some k) ∧
      c.assign name types mode = (c.update name (·.assign types mode), .ok ())) ∨
    ∃ e, c.assign name types mode = (c, .error e) := by
  unfold assign
  cases c.conflict? name types with
  | some found => exact Or.inr ⟨_, rfl⟩
  | none =>
    cases c.component? name with
    | none => exact Or.inr ⟨_, rfl⟩
    | some k => exact Or.inl ⟨rfl, ⟨k, rfl⟩, rfl⟩

/-- A change of supporting types keeps the rule if it puts no primary type among them. -/
theorem Valid.update {c : Container} {name : String} {f : Component → Component} (h : c.Valid)
    (hname : ∀ k, (f k).name = k.name) (hprimary : ∀ k, (f k).primaryType = k.primaryType)
    (hapart : ∀ k ∈ c.components, k.name = name →
      ∀ other ∈ c.components, other.primaryType ∉ (f k).supportingTypes) :
    (c.update name f).Valid := by
  have hnames : (c.update name f).components.map (·.name) = c.components.map (·.name) :=
    map_updateFirst hname c.components
  have htypes : (c.update name f).components.map (·.primaryType) =
      c.components.map (·.primaryType) := map_updateFirst hprimary c.components
  have hcases : ∀ k ∈ (c.update name f).components,
      k ∈ c.components ∨ ∃ old ∈ c.components, old.name = name ∧ k = f old := by
    intro k hk
    simpa only [beq_iff_eq] using mem_updateFirst hk
  refine ⟨h.name, fun k hk => ?_, hnames ▸ h.names, htypes ▸ h.primaryTypes,
    fun k hk other ho => ?_⟩
  · rcases hcases k hk with hk | ⟨old, hold, -, rfl⟩
    · exact h.named k hk
    · unfold Component.Named
      rw [hname, hprimary]
      exact h.named old hold
  · have hmem : other.primaryType ∈ c.components.map (·.primaryType) :=
      htypes ▸ List.mem_map_of_mem ho
    obtain ⟨other', ho', heq⟩ := List.mem_map.1 hmem
    rw [← heq]
    rcases hcases k hk with hk | ⟨old, hold, hold', rfl⟩
    · exact h.apart k hk other' ho'
    · exact hapart old hold hold' other' ho'

/-- In a container that keeps the rule, components of one name are one. -/
theorem Valid.eq_of_name_eq {c : Container} (h : c.Valid) {k other : Component}
    (hk : k ∈ c.components) (ho : other ∈ c.components) (hname : k.name = other.name) : k = other :=
  List.inj_on_of_nodup_map h.names hk ho hname

theorem Valid.assign {c : Container} (h : c.Valid) (name : String) (types : List String)
    (mode : Assignment) : (c.assign name types mode).1.Valid := by
  rcases c.assign_cases name types mode with ⟨hconflict, -, hassign⟩ | ⟨e, hassign⟩
  · rw [hassign]
    refine h.update (fun k => Component.name_assign k types mode)
      (fun k => Component.primaryType_assign k types mode) fun k hk hname other ho => ?_
    -- the other component is a sibling, which the conflicts rule out, or the component itself,
    -- whose primary type is never written
    have hnew : other.primaryType ∈ types → other.primaryType = k.primaryType := by
      intro hmem
      by_cases hother : other.name = name
      · rw [h.eq_of_name_eq ho hk (hother.trans hname.symm)]
      · exact absurd hmem ((c.conflict?_eq_none_iff name types).1 hconflict other ho hother)
    cases mode with
    | replace =>
      rw [Component.assign, Component.mem_replaceSupportingTypes]
      exact fun hmem => hmem.2 (hnew hmem.1)
    | append =>
      rw [Component.assign, Component.mem_addSupportingTypes]
      rintro (hmem | hmem)
      · exact hmem.2 (hnew hmem.1)
      · exact h.apart k hk other ho hmem
  · rw [hassign]
    exact h

end Container

end ComponentSupport
