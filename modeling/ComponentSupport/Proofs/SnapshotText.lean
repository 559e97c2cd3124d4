import ComponentSupport.Document.SnapshotFile
import ComponentSupport.Proofs.Decoding
import ComponentSupport.Proofs.JsonText

/-!
# Snapshots survive their text

A snapshot is handed over as a JSON text. `Snapshot.ofJson_toJson` says that the text of every
snapshot is read as the same snapshot, whatever its type names, references and annotations are, with
the order and the repetitions of every list.

The way back has two parts. The tree of a snapshot is one of texts, nested four deep, so that it is
read from its text (`Tree.ofJson?_toJson`). A list without items is left out of the tree of an entry
and is what the reader puts in for it (`SnapshotEntry.ofTree_toTree`), and the entries, which were
read out of a map in the order of their names, make up that map again (`NameMap.ofList_toList`).
-/

namespace ComponentSupport

theorem Convention.ofTree_label (d : Dialect) (c : Convention) :
    ofTree d (.text c.label) = .ok c := by
  cases c <;> rfl

namespace Tree

theorem mem_textsField {name : String} {values : List String} {f : String × Tree} :
    f ∈ textsField name values ↔ values ≠ [] ∧ f = (name, .texts values) := by
  cases values <;> simp [textsField]

/-- A list that may be left out is found just when it was written. -/
theorem find?_textsField (name : String) (values : List String) (other : String) :
    (textsField name values).find? (·.1 == other) =
      if name = other ∧ values ≠ [] then some (name, .texts values) else none := by
  cases values with
  | nil => simp [textsField]
  | cons value rest => by_cases h : name = other <;> simp [textsField, h]

end Tree

namespace SnapshotEntry

/-- The fields that are written of an entry. -/
def writtenFields (e : SnapshotEntry) : List (String × Tree) :=
  Tree.textsField "references" e.references ++ Tree.textsField "annotations" e.annotations

/-- What was left out of an entry is what its reader puts in. -/
theorem ofTree_toTree (d : Dialect) (e : SnapshotEntry) : ofTree d e.toTree = .ok e := by
  have hfields : d.fields ["references", "annotations"] true e.toTree = .ok e.writtenFields := by
    refine d.fields_object true (fun f hf => ?_) ?_
    · rcases List.mem_append.1 hf with hf | hf
      · simp [(Tree.mem_textsField.1 hf).2]
      · simp [(Tree.mem_textsField.1 hf).2]
    · cases e.references <;> cases e.annotations <;> simp [Tree.textsField]
  have hreferences : Dialect.optional e.writtenFields "references" [] d.texts =
      .ok e.references := by
    cases h : e.references <;> simp [Dialect.optional, writtenFields, Tree.find?_textsField, h]
  have hannotations : Dialect.optional e.writtenFields "annotations" [] d.texts =
      .ok e.annotations := by
    cases h : e.annotations <;> simp [Dialect.optional, writtenFields, Tree.find?_textsField, h]
  rw [ofTree, hfields, ok_bind, hreferences, ok_bind, hannotations]
  rfl

theorem plainWithin_toTree (n : Nat) (e : SnapshotEntry) : Json.PlainWithin (n + 2) e.toTree := by
  refine .object fun f hf => ?_
  rcases List.mem_append.1 hf with hf | hf
  · rw [(Tree.mem_textsField.1 hf).2]
    exact .texts e.references
  · rw [(Tree.mem_textsField.1 hf).2]
    exact .texts e.annotations

end SnapshotEntry

namespace Snapshot

theorem typesOfTree_toTree (d : Dialect) (types : NameMap SnapshotEntry) :
    typesOfTree d (.object (types.toList.map fun e => (e.1, e.2.toTree))) = .ok types := by
  rw [Tree.object, typesOfTree, bind_eq_ok_iff]
  refine ⟨types.toList, ?_, ?_⟩
  · rw [mapM_eq_ok_iff, List.map_map, List.forall₂_map_left_iff, List.forall₂_same]
    intro entry _
    simp [ok_bind, SnapshotEntry.ofTree_toTree]
  · rw [NameMap.ofList_toList]
    rfl

/-- The tree of a snapshot is read as the snapshot, in every dialect. -/
theorem ofTree_toTree (d : Dialect) (s : Snapshot) : ofTree d s.toTree = .ok s := by
  obtain ⟨convention, types⟩ := s
  rw [ofTree, toTree, d.fields_object true (by simp) (by simp)]
  simp [Dialect.optional, ok_bind, typesOfTree_toTree, Convention.ofTree_label]

theorem plainWithin_toTree (s : Snapshot) : Json.PlainWithin Json.maxNesting s.toTree := by
  refine .object fun f hf => ?_
  rcases List.mem_pair.1 hf with rfl | rfl
  · exact .text s.convention.label
  · refine .object fun entry hentry => ?_
    obtain ⟨⟨name, e⟩, -, rfl⟩ := List.mem_map.1 hentry
    exact e.plainWithin_toTree 123

/-- **Snapshots survive their text**: the text of a snapshot is accepted, and it is read as just the
snapshot that was written. -/
theorem ofJson_toJson (s : Snapshot) : ofJson s.toJson = .ok s := by
  rw [ofJson, toJson, Tree.ofJson?_toJson s.plainWithin_toTree]
  simp only
  rw [ofTree_toTree]
  rfl

end Snapshot

end ComponentSupport
