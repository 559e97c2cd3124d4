import ComponentSupport.Proofs.Construction

/-!
# Two ways to write supporting types

Supporting types are written onto a component through its container, which knows the primary types of
the siblings, or onto the component itself, which does not.

`Container.Assigned` says what a write through the container comes to, whatever the container is like:
names and primary types may occur in it more than once. A type of a sibling is refused before it is
asked whether the component exists, the first such type of the list is named
(`Container.FirstConflict`), and a write that is not refused changes the first component of the name.
`Container.assign_eq_iff_assigned` is the main theorem about it.

A write onto the component keeps the rule of the container just when the container would have let it
through, and then it is the same write (`Container.validate_direct_write`); otherwise it succeeds
nonetheless, and `Container.not_forall_direct_write_valid` is such a case. The component that is meant
may be looked up by its name or just have been added (`Container.changeNewest`).
-/

namespace ComponentSupport

/-- The last element of a list that passes a test is the first one from behind. -/
theorem find?_reverse_eq_some_iff {α : Type} {p : α → Bool} {l : List α} {x : α} :
    l.reverse.find? p = some x ↔
      p x = true ∧ ∃ before after, l = before ++ x :: after ∧ ∀ y ∈ after, p y = false := by
  rw [List.find?_eq_some_iff_append]
  refine and_congr_right fun _ => ?_
  constructor
  · rintro ⟨after, before, hl, hafter⟩
    refine ⟨before.reverse, after.reverse, ?_, fun y hy => ?_⟩
    · rw [← List.reverse_reverse l, hl]
      simp
    · simpa using hafter y (List.mem_reverse.1 hy)
  · rintro ⟨before, after, rfl, hafter⟩
    refine ⟨after.reverse, before.reverse, by simp, fun y hy => ?_⟩
    simpa using hafter y (List.mem_reverse.1 hy)

namespace Container

/-! ### Conflicts -/

/-- A type is the primary type of a component that does not have the given name. -/
def OwnedBySibling (c : Container) (name type : String) : Prop :=
  ∃ k ∈ c.components, k.name ≠ name ∧ k.primaryType = type

/-- The type and the owner that a refusal names. -/
structure FirstConflict (c : Container) (name : String) (types : List String)
    (type owner : String) : Prop where
  /-- The type is the first one listed that belongs to a sibling. -/
  listed : ∃ before after, types = before ++ type :: after ∧
    ∀ t ∈ before, ¬ c.OwnedBySibling name t
  /-- The owner is the last sibling that it belongs to. -/
  owned : ∃ before k after, c.components = before ++ k :: after ∧
    k.name ≠ name ∧ k.primaryType = type ∧ k.name = owner ∧
    ∀ other ∈ after, other.name ≠ name → other.primaryType ≠ type

theorem lastOwner_eq_some_iff {c : Container} {name type : String} {k : Component} :
    (c.siblings name).reverse.find? (·.primaryType == type) = some k ↔
      ∃ before after, c.components = before ++ k :: after ∧ k.name ≠ name ∧ k.primaryType = type ∧
        ∀ other ∈ after, other.name ≠ name → other.primaryType ≠ type := by
  rw [siblings, ← List.filter_reverse, List.find?_filter, find?_reverse_eq_some_iff]
  simp only [bne_iff_ne, ne_eq, beq_iff_eq, decide_eq_true_eq, decide_eq_false_iff_not, not_and]
  constructor
  · rintro ⟨⟨hname, htype⟩, before, after, hc, hafter⟩
    exact ⟨before, after, hc, hname, htype, hafter⟩
  · rintro ⟨before, after, hc, hname, htype, hafter⟩
    exact ⟨⟨hname, htype⟩, before, after, hc, hafter⟩

theorem lastOwner_eq_none_iff {c : Container} {name type : String} :
    (c.siblings name).reverse.find? (·.primaryType == type) = none ↔
      ¬ c.OwnedBySibling name type := by
  simp [siblings, OwnedBySibling]

theorem conflict?_eq_some_iff {c : Container} {name : String} {types : List String}
    {type owner : String} :
    c.conflict? name types = some (type, owner) ↔ c.FirstConflict name types type owner := by
  unfold conflict? owner?
  simp only [List.findSome?_eq_some_iff, Option.map_eq_some_iff, Option.map_eq_none_iff,
    lastOwner_eq_none_iff, lastOwner_eq_some_iff, Prod.mk.injEq]
  constructor
  · rintro ⟨before, _, after, htypes, ⟨k, ⟨others, rest, hc, hname, htype, hrest⟩, rfl, howner⟩, hbefore⟩
    exact ⟨⟨before, after, htypes, hbefore⟩, others, k, rest, hc, hname, htype, howner, hrest⟩
  · rintro ⟨⟨before, after, htypes, hbefore⟩, others, k, rest, hc, hname, htype, howner, hrest⟩
    exact ⟨before, type, after, htypes, ⟨k, ⟨others, rest, hc, hname, htype, hrest⟩, rfl, howner⟩,
      hbefore⟩

theorem conflict?_eq_none_iff_not_owned {c : Container} {name : String} {types : List String} :
    c.conflict? name types = none ↔ ∀ type ∈ types, ¬ c.OwnedBySibling name type := by
  rw [conflict?_eq_none_iff]
  constructor
  · rintro h type htype ⟨k, hk, hname, rfl⟩
    exact h k hk hname htype
  · intro h k hk hname htype
    exact h k.primaryType htype ⟨k, hk, hname, rfl⟩

/-- A refusal has something to name just when some listed type belongs to a sibling. -/
theorem exists_firstConflict_iff {c : Container} {name : String} {types : List String} :
    (∃ type owner, c.FirstConflict name types type owner) ↔
      ∃ type ∈ types, c.OwnedBySibling name type := by
  have hnone : (∃ type ∈ types, c.OwnedBySibling name type) ↔ c.conflict? name types ≠ none := by
    rw [ne_eq, conflict?_eq_none_iff_not_owned]
    push Not
    rfl
  rw [hnone, Option.ne_none_iff_exists']
  simp only [Prod.exists, conflict?_eq_some_iff]

/-! ### A write through the container -/

/-- What a write of supporting types through the container comes to: the container after it, and the
failure if there is one. -/
inductive Assigned (c : Container) (name : String) (types : List String) (mode : Assignment) :
    Container × Except ModelError Unit → Prop where
  /-- A listed type belongs to a sibling; nothing is written. -/
  | conflict {type owner : String} : c.FirstConflict name types type owner →
      Assigned c name types mode (c, .error (.supportingTypeConflict type name owner))
  /-- No listed type belongs to a sibling, but no component has the name; nothing is written. -/
  | unknown : (∀ type ∈ types, ¬ c.OwnedBySibling name type) →
      (∀ k ∈ c.components, k.name ≠ name) →
      Assigned c name types mode (c, .error (.unknownComponent name c.name))
  /-- The first component of the name has the new types, its primary type excepted, in place of the
  old ones or together with them; nothing else is changed. -/
  | written {before after : List Component} {k : Component} :
      (∀ type ∈ types, ¬ c.OwnedBySibling name type) →
      c.components = before ++ k :: after → (∀ other ∈ before, other.name ≠ name) → k.name = name →
      Assigned c name types mode
        ({ c with
            components := before ++
              { k with
                supportingTypes :=
                  mode.combine k.supportingTypes ((NameSet.ofList types).erase k.primaryType) } ::
              after },
          .ok ())

/-- Each outcome is the one that the write has. -/
theorem Assigned.assign_eq {c : Container} {name : String} {types : List String} {mode : Assignment}
    {result : Container × Except ModelError Unit} (h : c.Assigned name types mode result) :
    c.assign name types mode = result := by
  unfold assign
  cases h with
  | conflict hconflict => rw [conflict?_eq_some_iff.2 hconflict]
  | unknown hfree hname =>
    rw [conflict?_eq_none_iff_not_owned.2 hfree, component?_eq_none_iff.2 hname]
  | @written before after k hfree hc hbefore hname =>
    have hfound : c.component? name = some k :=
      component?_eq_some_iff.2 ⟨hname, before, after, hc, hbefore⟩
    rw [conflict?_eq_none_iff_not_owned.2 hfree, hfound, ← Component.assign_eq_combine]
    exact congrArg (·, _) (update_of_components_eq hc hbefore hname (·.assign types mode))

/-- Every write has one of the outcomes. -/
theorem assigned_assign (c : Container) (name : String) (types : List String) (mode : Assignment) :
    ∃ result, c.Assigned name types mode result := by
  by_cases howned : ∃ type ∈ types, c.OwnedBySibling name type
  · obtain ⟨type, owner, hconflict⟩ := exists_firstConflict_iff.2 howned
    exact ⟨_, .conflict hconflict⟩
  · have hfree : ∀ type ∈ types, ¬ c.OwnedBySibling name type :=
      fun type htype h => howned ⟨type, htype, h⟩
    cases hfound : c.component? name with
    | none => exact ⟨_, .unknown hfree (component?_eq_none_iff.1 hfound)⟩
    | some k =>
      obtain ⟨hname, before, after, hc, hbefore⟩ := component?_eq_some_iff.1 hfound
      exact ⟨_, .written hfree hc hbefore hname⟩

/-- **Writing through the container**: the outcomes of a write are those of `Assigned`. It fails over a
type just when a listed type belongs to a sibling, and otherwise over the name just when no component
has it. -/
theorem assign_eq_iff_assigned (c : Container) (name : String) (types : List String)
    (mode : Assignment) :
    (∀ result, c.assign name types mode = result ↔ c.Assigned name types mode result) ∧
    ((∃ type owner, (c.assign name types mode).2 =
        .error (.supportingTypeConflict type name owner)) ↔
      ∃ type ∈ types, c.OwnedBySibling name type) ∧
    ((c.assign name types mode).2 = .error (.unknownComponent name c.name) ↔
      (∀ type ∈ types, ¬ c.OwnedBySibling name type) ∧ ∀ k ∈ c.components, k.name ≠ name) := by
  have hassigned : c.Assigned name types mode (c.assign name types mode) := by
    obtain ⟨result, hresult⟩ := c.assigned_assign name types mode
    rw [hresult.assign_eq]
    exact hresult
  refine ⟨fun result => ⟨fun h => h ▸ hassigned, Assigned.assign_eq⟩, ⟨?_, ?_⟩, ?_, ?_⟩
  · rintro ⟨type, owner, he⟩
    generalize c.assign name types mode = result at hassigned he
    cases hassigned with
    | conflict hconflict => exact exists_firstConflict_iff.1 ⟨_, _, hconflict⟩
    | unknown => cases he
    | written => cases he
  · intro howned
    obtain ⟨type, owner, hconflict⟩ := exists_firstConflict_iff.2 howned
    exact ⟨type, owner, congrArg Prod.snd (Assigned.conflict hconflict).assign_eq⟩
  · intro he
    generalize c.assign name types mode = result at hassigned he
    cases hassigned with
    | conflict => cases he
    | unknown hfree hname => exact ⟨hfree, hname⟩
    | written => cases he
  · rintro ⟨hfree, hname⟩
    exact congrArg Prod.snd (Assigned.unknown hfree hname).assign_eq

/-- In a container that breaks its rule, the later of two owners is named, and the first of two
components of one name is written. -/
example :
    let a : Component := { name := "A", primaryType := "p.A" }
    let b : Component := { name := "B", primaryType := "p.B" }
    let c : Container := { name := "Api", components := [a, b, { b with name := "C" }, a] }
    (c.assign "Z" ["p.H", "p.B", "p.A"] .append).2 =
        .error (.supportingTypeConflict "p.B" "Z" "C") ∧
      (c.assign "A" ["p.H", "p.A"] .append).1.components.map (·.supportingTypes.toList) =
        [["p.H"], [], [], []] := by
  decide

/-! ### A write onto the component -/

/-- Changes the component that was added last. -/
def changeNewest (c : Container) (f : Component → Component) : Container :=
  { c with components := c.components.modify (c.components.length - 1) f }

/-- The component that was just added is the one that is found by its name. -/
theorem changeNewest_of_addComponent {c added : Container} {name primaryType : String}
    (h : c.addComponent name primaryType = (added, .ok ())) (f : Component → Component) :
    added.component? name = some { name, primaryType } ∧
      added.changeNewest f = added.update name f := by
  obtain ⟨-, hcompatible, rfl⟩ := insert_eq_ok_iff.1 h
  let k : Component := { name, primaryType }
  let longer : Container := { c with components := c.components ++ [k] }
  have hnew : ∀ other ∈ c.components, other.name ≠ name := fun other ho => (hcompatible other ho).1.1
  have hupdate : longer.update name f = { c with components := c.components ++ [f k] } :=
    update_of_components_eq rfl hnew rfl f
  have hnewest : longer.changeNewest f = { c with components := c.components ++ [f k] } := by
    rw [changeNewest, List.modify_eq_take_cons_drop (by simp [longer])]
    simp [longer]
  exact ⟨component?_eq_some_iff.2 ⟨rfl, c.components, [], rfl, hnew⟩, hnewest.trans hupdate.symm⟩

/-- A write onto a component of a container that keeps its rule keeps it just when no type that is
written is the primary type of a sibling. -/
theorem Valid.update_assign_iff {c : Container} (h : c.Valid) {name : String} {k : Component}
    (hk : c.component? name = some k) (types : List String) (mode : Assignment) :
    (c.update name (·.assign types mode)).Valid ↔
      ∀ other ∈ c.components, other.name ≠ name → other.primaryType ∉ types := by
  obtain ⟨rfl, before, after, hc, hbefore⟩ := component?_eq_some_iff.1 hk
  have hmem : k ∈ c.components := List.mem_of_find?_eq_some hk
  constructor
  · intro hvalid other ho hname htype
    rw [update_of_components_eq hc hbefore rfl] at hvalid
    -- the sibling is still there, and its primary type has come to support the component
    have hthere : other ∈ before ++ k.assign types mode :: after := by
      rw [hc, List.mem_append, List.mem_cons] at ho
      rcases ho with ho | rfl | ho
      · exact List.mem_append_left _ ho
      · exact absurd rfl hname
      · exact List.mem_append_right _ (List.mem_cons_of_mem _ ho)
    have hprimary : other.primaryType ≠ k.primaryType := fun heq =>
      hname (congrArg Component.name (List.inj_on_of_nodup_map h.primaryTypes ho hmem heq))
    have hsupports : other.primaryType ∈ (k.assign types mode).supportingTypes :=
      Component.mem_assign_of_mem htype hprimary mode
    exact hvalid.apart _ (List.mem_append_right _ List.mem_cons_self) other hthere hsupports
  · intro hfree
    have hassign : c.assign k.name types mode = (c.update k.name (·.assign types mode), .ok ()) := by
      rw [Container.assign, (c.conflict?_eq_none_iff k.name types).2 hfree, hk]
    have hvalid := h.assign k.name types mode
    rwa [hassign] at hvalid

/-- **Writing onto the component**: in a container in order, a write onto a component always succeeds,
whether the component was looked up by its name or was just added. The container is in order after it
just when no type of a sibling is written. In this case the container would have made the same write;
otherwise it would have refused it. -/
theorem validate_direct_write {c : Container} (h : c.validate = .ok ()) (types : List String)
    (mode : Assignment) :
    (∀ name k, c.component? name = some k →
      let written := c.changeComponent name (·.assign types mode)
      written.2 = .ok () ∧
      (written.1.validate = .ok () ↔
        ∀ other ∈ c.components, other.name ≠ name → other.primaryType ∉ types) ∧
      (written.1.validate = .ok () → c.assign name types mode = (written.1, .ok ())) ∧
      (written.1.validate ≠ .ok () → ∃ e, c.assign name types mode = (c, .error e))) ∧
    ∀ name primaryType added, c.addComponent name primaryType = (added, .ok ()) →
      ((added.changeNewest (·.assign types mode)).validate = .ok () ↔
        ∀ other ∈ c.components, other.primaryType ∉ types) := by
  have hvalid := c.validate_eq_ok_iff.1 h
  constructor
  · intro name k hk written
    have hwritten : written = (c.update name (·.assign types mode), .ok ()) := by
      show c.changeComponent name _ = _
      rw [changeComponent, hk]
    have hiff : written.1.validate = .ok () ↔
        ∀ other ∈ c.components, other.name ≠ name → other.primaryType ∉ types := by
      rw [hwritten, validate_eq_ok_iff, hvalid.update_assign_iff hk]
    refine ⟨congrArg Prod.snd hwritten, hiff, fun hok => ?_, fun hbad => ?_⟩
    · rw [hwritten, assign, (c.conflict?_eq_none_iff name types).2 (hiff.1 hok), hk]
    · rcases c.assign_cases name types mode with ⟨hconflict, -, -⟩ | hrefused
      · exact absurd (hiff.2 ((c.conflict?_eq_none_iff name types).1 hconflict)) hbad
      · exact hrefused
  · intro name primaryType added hadded
    obtain ⟨hfound, hnewest⟩ := changeNewest_of_addComponent hadded (·.assign types mode)
    have haddedValid : added.Valid := by
      have := hvalid.insert (k := { name, primaryType }) (NameSet.not_mem_empty _)
      rwa [show c.insert { name, primaryType } = _ from hadded] at this
    obtain ⟨-, hcompatible, rfl⟩ := insert_eq_ok_iff.1 hadded
    rw [hnewest, validate_eq_ok_iff, haddedValid.update_assign_iff hfound, List.forall_mem_append,
      List.forall_mem_singleton]
    constructor
    · rintro ⟨hold, -⟩ other ho
      exact hold other ho (hcompatible other ho).1.1
    · intro hold
      exact ⟨fun other ho _ => hold other ho, fun hname => absurd rfl hname⟩

/-- Two components, each with a primary type of its own. -/
def twoComponents : Container where
  name := "Api"
  components := [{ name := "A", primaryType := "p.A" }, { name := "B", primaryType := "p.B" }]

theorem validate_twoComponents : twoComponents.validate = .ok () := by decide

/-- A helper can be written onto a component, and the primary type of a sibling is written all the
same, onto a component that is there or onto a new one. -/
theorem validate_direct_write_twoComponents :
    let a := twoComponents.component? "A"
    let added := twoComponents.addComponent "C" "p.C"
    twoComponents.validate = .ok () ∧ a.isSome = true ∧ added.2 = .ok () ∧
      (twoComponents.changeComponent "A" (·.assign ["p.H"] .append)).1.validate = .ok () ∧
      (twoComponents.changeComponent "A" (·.assign ["p.H", "p.B"] .append)).2 = .ok () ∧
      (twoComponents.changeComponent "A" (·.assign ["p.H", "p.B"] .append)).1.validate ≠ .ok () ∧
      (added.1.changeNewest (·.assign ["p.A"] .replace)).validate ≠ .ok () := by
  intro a added
  have ha : twoComponents.component? "A" = some { name := "A", primaryType := "p.A" } := by decide
  obtain ⟨hhelper, -⟩ := validate_direct_write validate_twoComponents ["p.H"] .append
  obtain ⟨hsibling, -⟩ := validate_direct_write validate_twoComponents ["p.H", "p.B"] .append
  obtain ⟨-, hnew⟩ := validate_direct_write validate_twoComponents ["p.A"] .replace
  refine ⟨validate_twoComponents, by decide, by decide, ?_, (hsibling "A" _ ha).1, ?_, ?_⟩
  · exact (hhelper "A" _ ha).2.1.2 (by decide)
  · exact fun hok => absurd ((hsibling "A" _ ha).2.1.1 hok) (by decide)
  · exact fun hok => absurd ((hnew "C" "p.C" added.1 (by decide)).1 hok) (by decide)

/-- A write onto a component does not always leave the container in order. -/
theorem not_forall_direct_write_valid :
    ¬ ∀ (c : Container) (name : String) (types : List String) (mode : Assignment),
      c.validate = .ok () → (∃ k, c.component? name = some k) →
      (c.changeComponent name (·.assign types mode)).1.validate = .ok () := by
  intro h
  have hvalid := h twoComponents "A" ["p.B"] .append validate_twoComponents ⟨_, rfl⟩
  have hrefused : (twoComponents.changeComponent "A" (·.assign ["p.B"] .append)).1.validate =
      .error (.supportingTypeConflict "p.B" "A" "B") := by decide
  rw [hrefused] at hvalid
  cases hvalid

end Container

end ComponentSupport
