import ComponentSupport.Document.Model
import ComponentSupport.Proofs.Construction

/-!
# Adding components one by one

A container is checked in two ways: a component that is added is checked against the components that
are there, and validation checks all components at once. This module compares the two.

Adding a list of components asks of each that its names are not blank, and of each two that they can
stand beside each other (`Container.insertAll_eq_ok_iff`). This is a condition on pairs that does not
know which of the two came first, so the order of the list does not matter. It is also all that the rule
of the container asks, but for components that support themselves. None of the operations of a component
makes one, and then the two checks agree (`Container.insertAll_agrees`).

A component that comes from a document may support itself. `Container.checkNew` does not look at this,
and validation does; so `Container.validate_insert` says that a component that is added to a container
in order leaves it in order just when it does not support itself, and `Container.not_forall_insert_valid`
has a document that shows the difference.
-/

namespace ComponentSupport

namespace Container

/-! ### A list of components -/

/-- Adds components at the end in order; the first that does not fit ends it. -/
def insertAll (c : Container) (components : List Component) : Except ModelError Container :=
  components.foldlM (fun c k => (c.insert k).2.map fun _ => (c.insert k).1) c

theorem insertAll_cons_eq_ok_iff {c after : Container} {k : Component} {rest : List Component} :
    c.insertAll (k :: rest) = .ok after ↔
      ∃ mid, c.insert k = (mid, .ok ()) ∧ mid.insertAll rest = .ok after := by
  rw [insertAll, List.foldlM_cons, bind_eq_ok_iff]
  exact exists_congr fun mid => and_congr_left fun _ => map_snd_eq_ok_iff

/-- Components are added when their names are not blank and each two of the longer container that
are not both old can stand beside each other. -/
theorem insertAll_eq_ok_iff {c after : Container} {components : List Component} :
    c.insertAll components = .ok after ↔
      (∀ k ∈ components, k.Named) ∧
      (∀ other ∈ c.components, ∀ k ∈ components, other.Compatible k) ∧
      components.Pairwise Component.Compatible ∧
      after = { c with components := c.components ++ components } := by
  induction components generalizing c with
  | nil =>
    simp only [List.not_mem_nil, false_imp_iff, implies_true, List.Pairwise.nil, true_and,
      List.append_nil]
    exact ⟨fun h => (Except.ok.inj h).symm, fun h => congrArg Except.ok h.symm⟩
  | cons k rest ih =>
    rw [insertAll_cons_eq_ok_iff, List.forall_mem_cons, List.pairwise_cons]
    simp only [insert_eq_ok_iff, ih, List.forall_mem_cons]
    constructor
    · rintro ⟨_, ⟨hk, hold, rfl⟩, hrest, hmid, hpairs, hafter⟩
      rw [List.forall_mem_append, List.forall_mem_singleton] at hmid
      rw [List.append_assoc] at hafter
      exact ⟨⟨hk, hrest⟩, fun other ho => ⟨hold other ho, hmid.1 other ho⟩, ⟨hmid.2, hpairs⟩, hafter⟩
    · rintro ⟨⟨hk, hrest⟩, hold, ⟨hnext, hpairs⟩, hafter⟩
      refine ⟨_, ⟨hk, fun other ho => (hold other ho).1, rfl⟩, hrest, ?_, hpairs, ?_⟩
      · rw [List.forall_mem_append, List.forall_mem_singleton]
        exact ⟨fun other ho => (hold other ho).2, hnext⟩
      · rw [List.append_assoc]
        exact hafter

/-- What can be added to a container without components can be added in any order. -/
theorem exists_insertAll_perm {c : Container} (hc : c.components = [])
    {components order : List Component} (h : order.Perm components) :
    (∃ after, c.insertAll order = .ok after) ↔ ∃ after, c.insertAll components = .ok after := by
  simp only [insertAll_eq_ok_iff, hc, List.not_mem_nil, false_imp_iff, implies_true, true_and,
    exists_and_left, exists_eq, and_true]
  rw [h.pairwise_iff Component.Compatible.symm]
  simp only [h.mem_iff]

/-- **The two checks agree**: components that were made by their own operations can be added one by one
to a new container just when the container with all of them validates. Both are the case when no name
and no primary type is blank, no name and no primary type occurs twice, and no supporting type of one is
the primary type of any. What is made is the container with all of them, and the order in which they
are added does not matter. -/
theorem insertAll_agrees {name : String} (hname : Text.isBlank name = false)
    (description technology : String) {components : List Component}
    (hbuilt : ∀ k ∈ components, k.Built) :
    let new : Container := { name, description, technology }
    let whole : Container := { name, description, technology, components }
    ((∃ c, new.insertAll components = .ok c) ↔ whole.validate = .ok ()) ∧
    (whole.validate = .ok () ↔
      (∀ k ∈ components, Text.isBlank k.name = false ∧ Text.isBlank k.primaryType = false) ∧
      components.Pairwise (fun k other => k.name ≠ other.name) ∧
      components.Pairwise (fun k other => k.primaryType ≠ other.primaryType) ∧
      ∀ k ∈ components, ∀ other ∈ components, other.primaryType ∉ k.supportingTypes) ∧
    (∀ c, new.insertAll components = .ok c → c = whole) ∧
    ∀ order : List Component, order.Perm components →
      ((∃ c, new.insertAll order = .ok c) ↔ ∃ c, new.insertAll components = .ok c) := by
  intro new whole
  have hadded : ∀ c, new.insertAll components = .ok c ↔
      (∀ k ∈ components, k.Named) ∧ components.Pairwise Component.Compatible ∧ c = whole := by
    intro c
    simp [insertAll_eq_ok_iff, new, whole]
  refine ⟨?_, ?_, fun c hc => ((hadded c).1 hc).2.2,
    fun order horder => exists_insertAll_perm rfl horder⟩
  · rw [validate_eq_ok_iff, valid_iff_pairwise]
    constructor
    · rintro ⟨c, hc⟩
      obtain ⟨hnamed, hpairs, -⟩ := (hadded c).1 hc
      exact ⟨hname, fun k hk => ⟨hnamed k hk, (hbuilt k hk).primaryType_not_mem⟩, hpairs⟩
    · rintro ⟨-, hsingle, hpairs⟩
      exact ⟨whole, (hadded whole).2 ⟨fun k hk => (hsingle k hk).1, hpairs, rfl⟩⟩
  · rw [validate_eq_ok_iff]
    constructor
    · intro h
      exact ⟨h.named, List.pairwise_map.1 h.names, List.pairwise_map.1 h.primaryTypes, h.apart⟩
    · rintro ⟨hnamed, hnames, hprimary, hapart⟩
      exact ⟨hname, hnamed, List.pairwise_map.2 hnames, List.pairwise_map.2 hprimary, hapart⟩

/-- Components that were written in two ways, and that go in from either end. -/
theorem insertAll_agrees_reversed :
    let a := ({ name := "A", primaryType := "p.A" } : Component).addSupportingTypes ["p.A", "p.H"]
    let b := ({ name := "B", primaryType := "p.B" } : Component).addSupportingTypes ["p.A"]
    let built := [a, b.replaceSupportingTypes ["p.H", "p.B"]]
    let whole : Container := { name := "Api", components := built }
    Text.isBlank "Api" = false ∧ (∀ k ∈ built, k.Built) ∧ whole.validate = .ok () ∧
      (∃ c, ({ name := "Api" } : Container).insertAll built = .ok c) ∧
      ∃ c, ({ name := "Api" } : Container).insertAll built.reverse = .ok c := by
  intro a b built whole
  have hbuilt : ∀ k ∈ built, k.Built :=
    List.forall_mem_cons.2 ⟨.add _ (.new _ _),
      List.forall_mem_singleton.2 (.replace _ (.add _ (.new _ _)))⟩
  have hwhole : whole.validate = .ok () := by decide
  have hname : Text.isBlank "Api" = false := by decide
  obtain ⟨hagree, -, -, horder⟩ := insertAll_agrees hname "" "" hbuilt
  have hadded := hagree.2 hwhole
  exact ⟨hname, hbuilt, hwhole, hadded, (horder _ built.reverse_perm).2 hadded⟩

/-! ### A component from elsewhere -/

/-- Validation finds the last component if it supports itself and nothing else is wrong. -/
theorem validate_concat_of_supportsItself {c : Container} {k : Component} (h : c.Valid)
    (hnamed : k.Named) (hcompatible : ∀ other ∈ c.components, other.Compatible k)
    (hself : k.primaryType ∈ k.supportingTypes) :
    ({ c with components := c.components ++ [k] } : Container).validate =
      .error (.selfSupportingType k.name k.primaryType) := by
  have hpairs : (c.components ++ [k]).Pairwise Component.Compatible := by
    rw [List.pairwise_append]
    refine ⟨(c.valid_iff_pairwise.1 h).2.2, List.pairwise_singleton _ _, fun other ho => ?_⟩
    rw [List.forall_mem_singleton]
    exact hcompatible other ho
  have hcheck : checkComponents c.name [] (c.components ++ [k]) = .ok () := by
    rw [checkComponents_eq_ok_iff]
    refine ⟨?_, fun _ _ _ ho => absurd ho List.not_mem_nil, hpairs.imp And.left⟩
    rw [List.forall_mem_append, List.forall_mem_singleton]
    exact ⟨h.named, hnamed⟩
  have hold : forM c.components (checkSupportingTypes (c.components ++ [k])) = .ok () := by
    rw [← List.forM_eq_forM, forM_eq_ok_iff]
    intro other ho
    rw [checkSupportingTypes_eq_ok_iff, List.forall_mem_append, List.forall_mem_singleton]
    exact ⟨h.apart other ho other ho, h.apart other ho, (hcompatible other ho).2.1⟩
  have hlast : checkSupportingTypes (c.components ++ [k]) k =
      .error (.selfSupportingType k.name k.primaryType) := by
    unfold checkSupportingTypes
    rw [if_pos hself]
    rfl
  unfold validate
  rw [h.name, if_neg Bool.false_ne_true]
  simp only
  rw [hcheck, ok_bind, List.forM_eq_forM, List.forM_append, hold, ok_bind, List.forM_cons, hlast]
  rfl

/-- **Any component**: one that is added to a container in order leaves it in order just when it does
not support itself, and otherwise validation says that it does. One that is not added leaves the
container as it was. -/
theorem validate_insert {c : Container} (h : c.validate = .ok ()) (k : Component) :
    ((c.insert k).2 = .ok () →
      (c.insert k).1.validate =
        if k.primaryType ∈ k.supportingTypes then
          .error (.selfSupportingType k.name k.primaryType)
        else .ok ()) ∧
    ∀ e, (c.insert k).2 = .error e → (c.insert k).1 = c := by
  have hvalid := c.validate_eq_ok_iff.1 h
  refine ⟨fun hok => ?_, fun e he => insert_atomic k c e he⟩
  have hinsert : c.insert k = ((c.insert k).1, .ok ()) := Prod.ext rfl hok
  obtain ⟨hnamed, hcompatible, hafter⟩ := insert_eq_ok_iff.1 hinsert
  split
  · next hself =>
    rw [hafter]
    exact validate_concat_of_supportsItself hvalid hnamed hcompatible hself
  · next hself => exact (validate_eq_ok_iff _).2 (hvalid.insert hself)

/-- A container in order, with one component in it. -/
def inOrder : Container where
  name := "Api"
  components := [{ name := "A", primaryType := "p.A", supportingTypes := .ofList ["p.H"] }]

/-- A component in a document, with its own primary type among its supporting types. -/
def selfSupportingTree : Tree :=
  .object [("name", .text "B"), ("primary_type", .text "p.B"),
    ("supporting_types", .texts ["p.B", "p.H"])]

/-- The component that is read from it. -/
def selfSupporting : Component where
  name := "B"
  primaryType := "p.B"
  supportingTypes := .ofList ["p.B", "p.H"]

theorem ofTree_selfSupportingTree :
    Component.ofTree .json selfSupportingTree = .ok selfSupporting := by
  decide

theorem validate_inOrder : inOrder.validate = .ok () := by decide

theorem insert_selfSupporting : (inOrder.insert selfSupporting).2 = .ok () := by decide

theorem validate_insert_selfSupporting :
    inOrder.validate = .ok () ∧
      Component.ofTree .json selfSupportingTree = .ok selfSupporting ∧
      (inOrder.insert selfSupporting).2 = .ok () ∧
      (inOrder.insert selfSupporting).1.validate = .error (.selfSupportingType "B" "p.B") :=
  ⟨validate_inOrder, ofTree_selfSupportingTree, insert_selfSupporting,
    (validate_insert validate_inOrder selfSupporting).1 insert_selfSupporting⟩

/-- A container in order does not stay so whatever component is added to it, and not if the component
comes from a document either. -/
theorem not_forall_insert_valid :
    ¬ ∀ (c : Container) (t : Tree) (k : Component), c.validate = .ok () →
      Component.ofTree .json t = .ok k → (c.insert k).2 = .ok () →
      (c.insert k).1.validate = .ok () := by
  intro h
  have hvalid := h inOrder selfSupportingTree selfSupporting validate_inOrder
    ofTree_selfSupportingTree insert_selfSupporting
  have hrefused : (inOrder.insert selfSupporting).1.validate =
      .error (.selfSupportingType "B" "p.B") := by decide
  rw [hrefused] at hvalid
  cases hvalid

end Container

end ComponentSupport
