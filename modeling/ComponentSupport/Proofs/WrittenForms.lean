import ComponentSupport.Document.Model
import ComponentSupport.Document.Summary
import ComponentSupport.Proofs.ConfigText
import ComponentSupport.Proofs.SnapshotText

/-!
# Models and summaries survive their documents

A model is written with all its fields, and a summary without those that have nothing to say: lists
without items, and failures that did not happen. `Dialect.readsBack_written` says that either is read
as it was written, in every dialect. A model need not keep any rule for this. A set of types is
written as a list in order, from which the set is made again; whatever is left out of a summary is
what its reader puts in.

Each level is a record around the one below, so it is read back by the equation of its fields and by
the equation of the level below for its list.
-/

namespace ComponentSupport

/-! ### Models -/

theorem Component.ofTree_toTree (d : Dialect) (c : Component) : ofTree d c.toTree = .ok c := by
  rw [ofTree, toTree, d.fields_object false (by simp [fieldNames]) (by simp), ok_bind]
  simp [Dialect.required, Dialect.optional, ok_bind]

theorem Container.ofTree_toTree (d : Dialect) (c : Container) : ofTree d c.toTree = .ok c := by
  have hcomponents := d.list_map (l := c.components) (fun k _ => k.ofTree_toTree d)
  rw [ofTree, toTree, d.fields_object false (by simp [fieldNames]) (by simp), ok_bind]
  simp [Dialect.required, Dialect.optional, ok_bind, hcomponents]

theorem SoftwareSystem.ofTree_toTree (d : Dialect) (s : SoftwareSystem) :
    ofTree d s.toTree = .ok s := by
  have hcontainers := d.list_map (l := s.containers) (fun c _ => c.ofTree_toTree d)
  rw [ofTree, toTree, d.fields_object false (by simp [fieldNames]) (by simp), ok_bind]
  simp [Dialect.required, Dialect.optional, ok_bind, hcontainers]

theorem Model.ofTree_toTree (d : Dialect) (m : Model) : ofTree d m.toTree = .ok m := by
  have hsystems := d.list_map (l := m.softwareSystems) (fun s _ => s.ofTree_toTree d)
  rw [ofTree, toTree, d.fields_object false (by simp [fieldNames]) (by simp), ok_bind]
  simp [Dialect.optional, hsystems]

/-! ### Summaries -/

namespace Tree

/-- A failure that may be left out is found just when it was written. -/
theorem find?_textField? (name : String) (value : Option String) (other : String) :
    (textField? name value).find? (·.1 == other) =
      if name = other then value.map fun s => (name, .text s) else none := by
  cases value with
  | none => simp [textField?]
  | some s => by_cases h : name = other <;> simp [textField?, h]

theorem mem_textField? {name : String} {value : Option String} {f : String × Tree} :
    f ∈ textField? name value ↔ ∃ s, value = some s ∧ f = (name, .text s) := by
  cases value <;> simp [textField?]

theorem get?_object (fields : List (String × Tree)) (key : String) :
    (object fields).get? key = (fields.find? (·.1 == key)).map (·.2) := by
  simp [get?, object, untag, List.find?_map, Function.comp_def]

end Tree

namespace ComponentSummary

/-- The fields that are written of an entry. -/
def writtenFields (s : ComponentSummary) : List (String × Tree) :=
  [("component", .text s.component), ("primary_type", .text s.primaryType)] ++
    Tree.textsField "supporting_types" s.supportingTypes ++
    Tree.textField? "error_kind" s.errorKind ++ Tree.textField? "error" s.error

theorem find?_supportingTypes (s : ComponentSummary) :
    s.writtenFields.find? (·.1 == "supporting_types") =
      if s.supportingTypes = [] then none
      else some ("supporting_types", .texts s.supportingTypes) := by
  by_cases h : s.supportingTypes = [] <;>
    simp [writtenFields, Tree.find?_textsField, Tree.find?_textField?, h]

theorem find?_errorKind (s : ComponentSummary) :
    s.writtenFields.find? (·.1 == "error_kind") =
      s.errorKind.map fun kind => ("error_kind", .text kind) := by
  simp [writtenFields, Tree.find?_textsField, Tree.find?_textField?]

theorem find?_error (s : ComponentSummary) :
    s.writtenFields.find? (·.1 == "error") = s.error.map fun e => ("error", .text e) := by
  simp [writtenFields, Tree.find?_textsField, Tree.find?_textField?]

theorem fields_toTree (d : Dialect) (s : ComponentSummary) :
    d.fields ["component", "primary_type", "supporting_types", "error_kind", "error"] false
      s.toTree = .ok s.writtenFields := by
  refine d.fields_object false (fun f hf => ?_) ?_
  · simp only [List.mem_append, Tree.mem_textsField, Tree.mem_textField?] at hf
    rcases hf with ((hf | ⟨-, rfl⟩) | ⟨_, -, rfl⟩) | ⟨_, -, rfl⟩
    · rcases List.mem_pair.1 hf with rfl | rfl <;> simp
    · simp
    · simp
    · simp
  · cases s.supportingTypes <;> cases s.errorKind <;> cases s.error <;>
      simp [Tree.textsField, Tree.textField?]

/-- What was left out of an entry is what its reader puts in. -/
theorem ofTree_toTree (d : Dialect) (s : ComponentSummary) : ofTree d s.toTree = .ok s := by
  have htypes : Dialect.optional s.writtenFields "supporting_types" [] d.texts =
      .ok s.supportingTypes := by
    rw [Dialect.optional, s.find?_supportingTypes]
    by_cases h : s.supportingTypes = [] <;> simp [h]
  have hkind : Dialect.optional s.writtenFields "error_kind" none (Dialect.option d.text) =
      .ok s.errorKind := by
    rw [Dialect.optional, s.find?_errorKind]
    cases s.errorKind <;> simp [Dialect.option, Except.map]
  have herror : Dialect.optional s.writtenFields "error" none (Dialect.option d.text) =
      .ok s.error := by
    rw [Dialect.optional, s.find?_error]
    cases s.error <;> simp [Dialect.option, Except.map]
  rw [ofTree, s.fields_toTree d, ok_bind, htypes, hkind, herror]
  simp [writtenFields, Dialect.required, ok_bind]

/-- An entry is written without its list when that has no items. -/
theorem get?_supportingTypes (s : ComponentSummary) :
    s.toTree.get? "supporting_types" = none ↔ s.supportingTypes = [] := by
  show (Tree.object s.writtenFields).get? _ = none ↔ _
  rw [Tree.get?_object, s.find?_supportingTypes]
  by_cases h : s.supportingTypes = [] <;> simp [h]

/-- An entry is written without a failure when there is none. -/
theorem get?_failure (s : ComponentSummary) :
    (s.toTree.get? "error_kind" = none ↔ s.errorKind = none) ∧
      (s.toTree.get? "error" = none ↔ s.error = none) := by
  show ((Tree.object s.writtenFields).get? _ = none ↔ _) ∧
    ((Tree.object s.writtenFields).get? _ = none ↔ _)
  rw [Tree.get?_object, Tree.get?_object, s.find?_errorKind, s.find?_error]
  simp

end ComponentSummary

theorem ContainerSummary.ofTree_toTree (d : Dialect) (s : ContainerSummary) :
    ofTree d s.toTree = .ok s := by
  have hcomponents := d.list_map (l := s.components) (fun e _ => e.ofTree_toTree d)
  rw [ofTree, toTree, d.fields_object false (by simp) (by simp), ok_bind]
  simp [Dialect.required, ok_bind, hcomponents]

/-- The totals of a summary are numbers of 64 bits. -/
structure ReportSummary.InRange (s : ReportSummary) : Prop where
  components : s.components < UInt64.size
  failures : s.failures < UInt64.size
  supportingTypes : s.supportingTypes < UInt64.size

theorem ReportSummary.ofTree_toTree (d : Dialect) {s : ReportSummary} (h : s.InRange) :
    ofTree d s.toTree = .ok s := by
  have hcontainers := d.list_map (l := s.containers) (fun c _ => c.ofTree_toTree d)
  rw [ofTree, toTree, d.fields_object false (by simp) (by simp), ok_bind]
  simp [Dialect.required, ok_bind, d.nat_int 64 h.components, d.nat_int 64 h.failures,
    d.nat_int 64 h.supportingTypes, hcontainers]

/-- **Models and summaries survive their documents**: in every dialect, the tree of a model is read as
the model, whatever rules it breaks, and the tree of a summary as the summary. An entry of the summary
has a list in its tree just when the list has items, and a failure just when there was one. -/
theorem Dialect.readsBack_written (d : Dialect) :
    (∀ m : Model, Model.ofTree d m.toTree = .ok m) ∧
    ∀ s : ReportSummary, s.InRange →
      ReportSummary.ofTree d s.toTree = .ok s ∧
      ∀ c ∈ s.containers, ∀ e ∈ c.components,
        (e.toTree.get? "supporting_types" = none ↔ e.supportingTypes = []) ∧
        (e.toTree.get? "error_kind" = none ↔ e.errorKind = none) ∧
        (e.toTree.get? "error" = none ↔ e.error = none) := by
  constructor
  · exact Model.ofTree_toTree d
  · intro s hs
    refine ⟨ReportSummary.ofTree_toTree d hs, fun c _ e _ => ?_⟩
    exact ⟨e.get?_supportingTypes, e.get?_failure⟩

/-- A model with a repeated name and a component that lists its own primary type, and a summary with
an entry that has nothing to tell and one that tells of a failure only. -/
theorem Dialect.readsBack_written_sparse :
    let m : Model :=
      { softwareSystems := [
          { name := "Bank" },
          { name := "Bank"
            containers := [
              { name := ""
                components := [
                  { name := "A", primaryType := "p.A"
                    supportingTypes := .ofList ["p.Z", "p.A", "p.Z"] }] }] }] }
    let s : ReportSummary :=
      { components := 2, failures := 1, supportingTypes := 0
        containers := [
          { container := ""
            components := [
              { component := "A", primaryType := "p.A" },
              { component := "B", primaryType := "p.B", errorKind := some "model"
                error := some "refused" }] }] }
    s.InRange ∧ m.validate ≠ .ok () ∧ Model.ofTree .json m.toTree = .ok m ∧
      ReportSummary.ofTree .json s.toTree = .ok s := by
  intro m s
  have hs : s.InRange := ⟨by decide, by decide, by decide⟩
  exact ⟨hs, by decide, (readsBack_written .json).1 m, ((readsBack_written .json).2 s hs).1⟩

end ComponentSupport
