import ComponentSupport.Proofs.ContainerRule
import Mathlib.Data.List.Induction

/-!
# Types that several components share

A supporting type is meant to be a helper of one component alone. What the steps on a container
see to is less: no supporting type is the primary type of a component. Nothing keeps a type that was
written onto one component from being written onto another.

The main theorem, `Container.supportingTypes_of_build`, says which types the components of a new
container hold after any steps that succeed: those that were written onto each since its types were
last replaced (`Container.written`), its primary type excepted. So two components share a type just
when one was written onto both, and `Container.not_forall_private` has two steps that do so.

`Container.Records` is the invariant: the types that are held are those written, nothing was written
onto a component that is not there, and the container keeps its rule. The rule asks for the name of the
container too, which a new container need not have; so it is stated for whatever name the container
might be given.
-/

namespace ComponentSupport

namespace Container

/-! ### Steps -/

/-- A step on a container: a new component, or supporting types for one that is there. -/
inductive Step where
  | addComponent (name primaryType : String)
  | assign (component : String) (types : List String) (mode : Assignment)

/-- Carries out a step. -/
def step (c : Container) : Step → Container × Except ModelError Unit
  | .addComponent name primaryType => c.addComponent name primaryType
  | .assign component types mode => c.assign component types mode

/-- The container after steps that all succeed; the first failure ends them. -/
def build (c : Container) (steps : List Step) : Except ModelError Container :=
  steps.foldlM (fun c s => (c.step s).2.map fun _ => (c.step s).1) c

theorem build_concat_eq_ok_iff {c after : Container} {steps : List Step} {s : Step} :
    c.build (steps ++ [s]) = .ok after ↔
      ∃ mid, c.build steps = .ok mid ∧ mid.step s = (after, .ok ()) := by
  rw [build, List.foldlM_append, bind_eq_ok_iff]
  refine exists_congr fun mid => and_congr_right fun _ => ?_
  rw [List.foldlM_cons, bind_eq_ok_iff]
  simp only [List.foldlM_nil, pure_eq_ok_iff, exists_eq_right, map_snd_eq_ok_iff]

/-- The types written onto the components of a name so far, after one step more. -/
def Step.write (name : String) (types : List String) : Step → List String
  | .addComponent _ _ => types
  | .assign component new mode =>
    if component = name then
      match mode with
      | .replace => new
      | .append => types ++ new
    else types

/-- The types written onto the components of a name, since they were last replaced. -/
def written (name : String) (steps : List Step) : List String :=
  steps.foldl (Step.write name) []

theorem written_concat (name : String) (steps : List Step) (s : Step) :
    written name (steps ++ [s]) = s.write name (written name steps) :=
  List.foldl_append

/-- A write onto a component puts into it what it adds to the types written. -/
theorem mem_supportingTypes_assign {k : Component} {types new : List String} {mode : Assignment}
    (h : ∀ t, t ∈ k.supportingTypes ↔ t ∈ types ∧ t ≠ k.primaryType) (t : String) :
    t ∈ (k.assign new mode).supportingTypes ↔
      t ∈ (Step.assign k.name new mode).write k.name types ∧ t ≠ k.primaryType := by
  cases mode with
  | replace =>
    rw [Component.assign, Component.mem_replaceSupportingTypes, Step.write, if_pos rfl]
  | append =>
    rw [Component.assign, Component.mem_addSupportingTypes, Step.write, if_pos rfl, h,
      List.mem_append]
    rw [← or_and_right, or_comm]

/-! ### The rule under any name -/

/-- Whatever name the container is given, it keeps the rule. -/
def KeepsRule (c : Container) : Prop :=
  ∀ name, Text.isBlank name = false → ({ c with name } : Container).Valid

theorem KeepsRule.insert {c : Container} (h : c.KeepsRule) {k : Component}
    (hself : k.primaryType ∉ k.supportingTypes) : (c.insert k).1.KeepsRule := by
  intro name hname
  have hvalid : (({ c with name } : Container).insert k).1.Valid := (h name hname).insert hself
  rcases c.insert_cases k with ⟨hcheck, hinsert⟩ | ⟨e, -, hinsert⟩
  · have hcheck' : ({ c with name } : Container).checkNew k = .ok () :=
      (checkNew_eq_ok_iff _ k).2 ((checkNew_eq_ok_iff c k).1 hcheck)
    rw [Container.insert, hcheck'] at hvalid
    rw [hinsert]
    exact hvalid
  · rw [hinsert]
    exact h name hname

theorem KeepsRule.assign {c : Container} (h : c.KeepsRule) (component : String)
    (types : List String) (mode : Assignment) : (c.assign component types mode).1.KeepsRule := by
  intro name hname
  have hvalid : (({ c with name } : Container).assign component types mode).1.Valid :=
    (h name hname).assign component types mode
  rcases c.assign_cases component types mode with ⟨hconflict, ⟨k, hk⟩, hassign⟩ | ⟨e, hassign⟩
  · have hconflict' : ({ c with name } : Container).conflict? component types = none := hconflict
    have hk' : ({ c with name } : Container).component? component = some k := hk
    rw [Container.assign, hconflict', hk'] at hvalid
    rw [hassign]
    exact hvalid
  · rw [hassign]
    exact h name hname

/-- A name that no one has may stand for the missing name of a container. -/
theorem KeepsRule.valid {c : Container} (h : c.KeepsRule) :
    ({ c with name := "C" } : Container).Valid :=
  h "C" (by decide)

/-! ### What is held is what was written -/

/-- The supporting types of the components are those that the steps wrote. -/
structure Records (c : Container) (steps : List Step) : Prop where
  /-- The rule holds, but for the name of the container. -/
  rule : c.KeepsRule
  /-- Types were written only onto components that are there. -/
  known : ∀ name, written name steps ≠ [] → ∃ k ∈ c.components, k.name = name
  /-- A component holds what was written onto it, its primary type excepted. -/
  held : ∀ k ∈ c.components, ∀ t,
    t ∈ k.supportingTypes ↔ t ∈ written k.name steps ∧ t ≠ k.primaryType

theorem Records.new (name description technology : String) :
    Records { name, description, technology } [] where
  rule _ hname := ⟨hname, fun _ hk => absurd hk List.not_mem_nil, List.nodup_nil, List.nodup_nil,
    fun _ hk => absurd hk List.not_mem_nil⟩
  known _ hne := absurd rfl hne
  held _ hk := absurd hk List.not_mem_nil

theorem Records.addComponent {c after : Container} {steps : List Step} (h : c.Records steps)
    {name primaryType : String} (hstep : c.addComponent name primaryType = (after, .ok ())) :
    after.Records (steps ++ [.addComponent name primaryType]) := by
  have hrule : after.KeepsRule := by
    have := h.rule.insert (k := { name, primaryType }) (NameSet.not_mem_empty _)
    rwa [show c.insert { name, primaryType } = _ from hstep] at this
  have hwritten : ∀ other, written other (steps ++ [.addComponent name primaryType]) =
      written other steps := fun other => written_concat other steps _
  rcases c.insert_cases { name, primaryType } with ⟨hcheck, hinsert⟩ | ⟨e, -, hinsert⟩
  · obtain rfl : _ = after := congrArg Prod.fst (hinsert.symm.trans hstep)
    refine ⟨hrule, fun other hne => ?_, fun k hk t => ?_⟩
    · rw [hwritten] at hne
      obtain ⟨k, hk, hname⟩ := h.known other hne
      exact ⟨k, List.mem_append_left _ hk, hname⟩
    · rw [hwritten]
      rcases List.mem_append.1 hk with hk | hk
      · exact h.held k hk t
      · obtain rfl := List.mem_singleton.1 hk
        -- the name is new, so nothing was written under it
        have hnone : written name steps = [] := by
          by_contra hne
          obtain ⟨other, ho, hname⟩ := h.known name hne
          exact (((checkNew_eq_ok_iff c _).1 hcheck).2.1 other ho).1 hname
        simp [hnone]
  · cases hinsert.symm.trans hstep

/-- With names that are all different, a write reaches one component and no other. -/
theorem mem_update {c : Container} (h : (c.components.map (·.name)).Nodup) {name : String}
    {k : Component} (hk : c.component? name = some k) (f : Component → Component) {y : Component} :
    y ∈ (c.update name f).components → y = f k ∨ y ∈ c.components ∧ y.name ≠ name := by
  obtain ⟨hname, before, after, hsplit, hbefore⟩ := component?_eq_some_iff.1 hk
  rw [hsplit, List.map_append, List.map_cons, List.nodup_append, List.nodup_cons] at h
  rw [update_of_components_eq hsplit hbefore hname, hsplit, List.mem_append, List.mem_cons]
  rintro (hy | rfl | hy)
  · exact Or.inr ⟨List.mem_append_left _ hy, hbefore y hy⟩
  · exact Or.inl rfl
  · refine Or.inr ⟨List.mem_append_right _ (List.mem_cons_of_mem _ hy), fun heq => ?_⟩
    exact h.2.1.1 (List.mem_map.2 ⟨y, hy, heq.trans hname.symm⟩)

theorem Records.assign {c after : Container} {steps : List Step} (h : c.Records steps)
    {component : String} {types : List String} {mode : Assignment}
    (hstep : c.assign component types mode = (after, .ok ())) :
    after.Records (steps ++ [.assign component types mode]) := by
  have hrule : after.KeepsRule := by
    have := h.rule.assign component types mode
    rwa [hstep] at this
  have hother : ∀ name, name ≠ component →
      written name (steps ++ [.assign component types mode]) = written name steps := by
    intro name hne
    rw [written_concat]
    exact if_neg (Ne.symm hne)
  rcases c.assign_cases component types mode with ⟨-, ⟨k, hk⟩, hassign⟩ | ⟨e, hassign⟩
  · obtain rfl : _ = after := congrArg Prod.fst (hassign.symm.trans hstep)
    have hmem : k ∈ c.components := List.mem_of_find?_eq_some hk
    obtain rfl : k.name = component := by simpa using List.find?_some hk
    have hnames : (c.update k.name (·.assign types mode)).components.map (·.name) =
        c.components.map (·.name) := map_updateFirst (fun x => x.name_assign types mode) _
    refine ⟨hrule, fun name hne => ?_, fun y hy t => ?_⟩
    · have hthere : name ∈ c.components.map (·.name) := by
        by_cases hname : name = k.name
        · exact hname ▸ List.mem_map_of_mem hmem
        · rw [hother name hname] at hne
          obtain ⟨x, hx, rfl⟩ := h.known name hne
          exact List.mem_map_of_mem hx
      rw [← hnames] at hthere
      exact List.mem_map.1 hthere
    · rcases mem_update h.rule.valid.names hk _ hy with rfl | ⟨hy, hname⟩
      · rw [Component.name_assign, Component.primaryType_assign, written_concat]
        exact mem_supportingTypes_assign (h.held k hmem) t
      · rw [hother y.name hname]
        exact h.held y hy t
  · cases hassign.symm.trans hstep

theorem Records.of_build {c after : Container} {steps : List Step} (h : c.Records [])
    (hbuild : c.build steps = .ok after) : after.Records steps := by
  induction steps using List.reverseRecOn generalizing after with
  | nil =>
    obtain rfl := Except.ok.inj hbuild
    exact h
  | append_singleton steps s ih =>
    obtain ⟨mid, hmid, hstep⟩ := build_concat_eq_ok_iff.1 hbuild
    cases s with
    | addComponent name primaryType => exact (ih hmid).addComponent hstep
    | assign component types mode => exact (ih hmid).assign hstep

/-- What was written onto a component is no primary type of another. -/
theorem Records.ne_primaryType {c : Container} {steps : List Step} (h : c.Records steps)
    {k other : Component} (hk : k ∈ c.components) (ho : other ∈ c.components)
    (hne : k.name ≠ other.name) {t : String} (ht : t ∈ written k.name steps) :
    t ≠ other.primaryType := by
  rintro rfl
  have hprimary : other.primaryType ≠ k.primaryType := fun heq =>
    hne (congrArg Component.name
      (List.inj_on_of_nodup_map h.rule.valid.primaryTypes hk ho heq.symm))
  exact h.rule.valid.apart k hk other ho ((h.held k hk _).2 ⟨ht, hprimary⟩)

/-- A type is private when it was written onto one component only. -/
theorem Records.private_iff {c : Container} {steps : List Step} (h : c.Records steps) :
    (∀ k ∈ c.components, ∀ other ∈ c.components, k ≠ other →
      ∀ t ∈ k.supportingTypes, t ∉ other.supportingTypes) ↔
    ∀ name name', name ≠ name' → ∀ t ∈ written name steps, t ∉ written name' steps := by
  constructor
  · intro hprivate name name' hne t ht ht'
    obtain ⟨k, hk, rfl⟩ := h.known name (List.ne_nil_of_mem ht)
    obtain ⟨other, ho, rfl⟩ := h.known name' (List.ne_nil_of_mem ht')
    have hheld : t ∈ k.supportingTypes :=
      (h.held k hk t).2 ⟨ht, h.ne_primaryType ho hk (Ne.symm hne) ht'⟩
    have hheld' : t ∈ other.supportingTypes :=
      (h.held other ho t).2 ⟨ht', h.ne_primaryType hk ho hne ht⟩
    exact hprivate k hk other ho (fun heq => hne (congrArg _ heq)) t hheld hheld'
  · intro hwritten k hk other ho hne t ht ht'
    have hname : k.name ≠ other.name := fun heq => hne (h.rule.valid.eq_of_name_eq hk ho heq)
    exact hwritten _ _ hname t ((h.held k hk t).1 ht).1 ((h.held other ho t).1 ht').1

/-- **Supporting types**: after steps on a new container that all succeed, a component holds the types
that were written onto it since they were last replaced, its primary type excepted. None of them is the
primary type of a component; but two components share a type unless what was written onto components of
different names has nothing in common. -/
theorem supportingTypes_of_build {name description technology : String} {steps : List Step}
    {c : Container}
    (h : ({ name, description, technology } : Container).build steps = .ok c) :
    (∀ k ∈ c.components, ∀ t,
      t ∈ k.supportingTypes ↔ t ∈ written k.name steps ∧ t ≠ k.primaryType) ∧
    (∀ k ∈ c.components, ∀ other ∈ c.components, other.primaryType ∉ k.supportingTypes) ∧
    ((∀ k ∈ c.components, ∀ other ∈ c.components, k ≠ other →
        ∀ t ∈ k.supportingTypes, t ∉ other.supportingTypes) ↔
      ∀ name name', name ≠ name' → ∀ t ∈ written name steps, t ∉ written name' steps) := by
  have hrecords : c.Records steps := (Records.new name description technology).of_build h
  exact ⟨hrecords.held, hrecords.rule.valid.apart, hrecords.private_iff⟩

/-- Steps that write one helper onto two components. -/
def sharing : List Step :=
  [.addComponent "A" "p.A", .addComponent "B" "p.B", .assign "A" ["p.Old"] .append,
    .assign "A" ["p.H", "p.A"] .replace, .assign "B" ["p.H"] .append]

/-- What the steps leave: the first component has lost what was replaced, and the helper is in both. -/
def shared : Container where
  name := "Api"
  components := [
    { name := "A", primaryType := "p.A", supportingTypes := .ofList ["p.H"] },
    { name := "B", primaryType := "p.B", supportingTypes := .ofList ["p.H"] }]

theorem build_sharing :
    ({ name := "Api", description := "", technology := "" } : Container).build sharing =
      .ok shared := by
  decide

theorem supportingTypes_of_build_sharing :
    ({ name := "Api", description := "", technology := "" } : Container).build sharing = .ok shared ∧
      (∀ k ∈ shared.components, ∀ t,
        t ∈ k.supportingTypes ↔ t ∈ written k.name sharing ∧ t ≠ k.primaryType) ∧
      "p.H" ∈ written "A" sharing ∧ "p.H" ∈ written "B" sharing ∧ "p.Old" ∉ written "A" sharing :=
  ⟨build_sharing, (supportingTypes_of_build build_sharing).1, by decide, by decide, by decide⟩

/-- A supporting type need not be private to one component. -/
theorem not_forall_private :
    ¬ ∀ (name description technology : String) (steps : List Step) (c : Container),
      ({ name, description, technology } : Container).build steps = .ok c →
      ∀ k ∈ c.components, ∀ other ∈ c.components, k ≠ other →
        ∀ t ∈ k.supportingTypes, t ∉ other.supportingTypes := by
  intro h
  have hshared := h "Api" "" "" sharing shared build_sharing
  exact hshared _ List.mem_cons_self _ (List.mem_cons_of_mem _ List.mem_cons_self) (by decide)
    "p.H" (by decide) (by decide)

end Container

end ComponentSupport
