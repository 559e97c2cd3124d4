import ComponentSupport.Document.Config
import ComponentSupport.Proofs.Decoding

/-!
# How deep a reader has to look

A strategy may hold strategies, and its reader is given a number that says how deep it may go:
`StrategyConfig.ofTreeWithin`. The number is the height of the tree, and any number from there on
gives the same answer, because what stands inside a strategy is lower than the strategy: the rest of
a variant is no higher than the variant (`Tree.height_variant_le`), and the fields of a record are
lower than the record (`Dialect.height_lt_of_mem_fields`).

What comes of it is the equation `StrategyConfig.ofTree_eq`, in which there is no number any more: a
strategy is read by reading the strategies inside it in the same way.
-/

namespace ComponentSupport

/-! ### Heights -/

namespace Tree

theorem height_le_itemsHeight {items : List Tree} {t : Tree} (h : t ∈ items) :
    t.height ≤ itemsHeight items := by
  induction items with
  | nil => cases h
  | cons first rest ih =>
    rw [itemsHeight]
    rcases List.mem_cons.1 h with rfl | h
    · exact Nat.le_max_left _ _
    · exact Nat.le_trans (ih h) (Nat.le_max_right _ _)

theorem height_le_fieldsHeight {fields : List (Tree × Tree)} {key value : Tree}
    (h : (key, value) ∈ fields) : value.height ≤ fieldsHeight fields := by
  induction fields with
  | nil => cases h
  | cons first rest ih =>
    rw [fieldsHeight]
    rcases List.mem_cons.1 h with rfl | h
    · exact Nat.le_max_left _ _
    · exact Nat.le_trans (ih h) (Nat.le_max_right _ _)

theorem height_pos (t : Tree) : 0 < t.height := by
  cases t <;> simp [height]

theorem fieldsHeight_filter_le (p : Tree × Tree → Bool) (fields : List (Tree × Tree)) :
    fieldsHeight (fields.filter p) ≤ fieldsHeight fields := by
  induction fields with
  | nil => exact Nat.le_refl _
  | cons first rest ih =>
    rw [List.filter_cons, fieldsHeight]
    split
    · rw [fieldsHeight]
      omega
    · omega

/-- The rest of a variant is no higher than the variant. -/
theorem height_variant_le {name : String} {t kind content : Tree}
    (h : t.variant name = .ok (kind, content)) : content.height ≤ t.height := by
  unfold variant at h
  split at h
  · next fields =>
    split at h
    · cases h
      rw [height, height]
      exact Nat.succ_le_succ (fieldsHeight_filter_le _ fields)
    · cases h
    · cases h
  · cases h
    rw [height, height, itemsHeight]
    omega
  · cases h
  · cases h

end Tree

namespace Dialect

/-- The fields of a record are lower than the record. -/
theorem height_lt_of_mem_fields {known : List String} {strict : Bool} {t : Tree}
    {found : List (String × Tree)} (h : variant.fields known strict t = .ok found)
    {f : String × Tree} (hf : f ∈ found) : f.2.height < t.height := by
  unfold fields at h
  show _ < (variant.strip t).height
  split at h
  · next fs ht =>
    rw [ht, Tree.height]
    obtain ⟨key, hkey⟩ := mem_of_foldlM_addField h hf
    exact Nat.lt_succ_of_le (Tree.height_le_fieldsHeight hkey)
  · next items ht =>
    split at h
    · cases h
      rw [ht, Tree.height]
      exact Nat.lt_succ_of_le (Tree.height_le_itemsHeight (List.of_mem_zip hf).2)
    · cases h
  · cases h
  · cases h

end Dialect

/-! ### Readers that agree -/

namespace Dialect

variable {α : Type} {read read' : Tree → Except DecodeError α}

/-- What it takes for a variant to have a kind. -/
theorem kindOf_eq_ok_iff {d : Dialect} {name : String} {kinds : List (String × α)}
    {t content : Tree} {kind : α} :
    d.kindOf name kinds t = .ok (kind, content) ↔
      ∃ stated, t.variant name = .ok (stated, content) ∧
        d.pickKey kinds (d.strip stated) = .ok kind ∧ content.hasTag = false := by
  simp only [kindOf, bind_eq_ok_iff, guard_eq_ok_iff, pure_eq_ok_iff, Prod.exists, Prod.mk.injEq]
  constructor
  · rintro ⟨stated, _, hvariant, _, hkind, htag, rfl, rfl⟩
    exact ⟨stated, hvariant, hkind, by simpa using htag⟩
  · rintro ⟨stated, hvariant, hkind, htag⟩
    exact ⟨stated, content, hvariant, kind, hkind, by simp [htag], rfl, rfl⟩

theorem required_congr {found : List (String × Tree)}
    (h : ∀ f ∈ found, read f.2 = read' f.2) (name : String) :
    required found name read = required found name read' := by
  unfold required
  cases hfind : found.find? (·.1 == name) with
  | none => rfl
  | some f => exact h f (List.mem_of_find?_eq_some hfind)

theorem optional_congr {found : List (String × Tree)}
    (h : ∀ f ∈ found, read f.2 = read' f.2) (name : String) (default : α) :
    optional found name default read = optional found name default read' := by
  unfold optional
  cases hfind : found.find? (·.1 == name) with
  | none => rfl
  | some f => exact h f (List.mem_of_find?_eq_some hfind)

theorem option_congr {t : Tree} (h : read t = read' t) :
    option read t = option read' t := by
  unfold option
  split
  · rfl
  · rw [h]

theorem list_congr {d : Dialect} {t : Tree}
    (h : ∀ items, d.strip t = .list items → ∀ x ∈ items, read x = read' x) :
    d.list read t = d.list read' t := by
  unfold list
  split
  · next items ht =>
    exact mapM_congr_left (h items ht)
  · rfl
  · rfl

end Dialect

namespace StrategyConfig

/-- Readers that agree on all lower trees read alike. -/
theorem ofTreeBy_congr {read read' : Tree → Except DecodeError StrategyConfig} {t : Tree}
    (h : ∀ inner, inner.height < t.height → read inner = read' inner) (d : Dialect) :
    ofTreeBy read d t = ofTreeBy read' d t := by
  refine bind_congr_ok fun ⟨kind, content⟩ hkind => ?_
  obtain ⟨stated, hvariant, -, -⟩ := Dialect.kindOf_eq_ok_iff.1 hkind
  have hlower : ∀ {known found}, Dialect.variant.fields known false content = .ok found →
      ∀ f ∈ found, f.2.height < t.height := fun hfound f hf =>
    Nat.lt_of_lt_of_le (Dialect.height_lt_of_mem_fields hfound hf) (Tree.height_variant_le hvariant)
  cases kind with
  | referencedTypes => rfl
  | referencedTypesInSamePackage => rfl
  | allTypesInPackage => rfl
  | allTypesUnderPackage => rfl
  | matchingTypes =>
    refine bind_congr_ok fun found hfound => ?_
    have hinner := Dialect.required_congr (fun f hf => h f.2 (hlower hfound f hf)) "inner"
    simp only [hinner]
  | explicitTypes =>
    refine bind_congr_ok fun found hfound => ?_
    have hinner := Dialect.optional_congr (fun f hf =>
      Dialect.option_congr (h f.2 (hlower hfound f hf))) "inner" none
    simp only [hinner]
  | composite =>
    refine bind_congr_ok fun found hfound => ?_
    have hitem : ∀ f ∈ found, ∀ items, Dialect.variant.strip f.2 = .list items → ∀ x ∈ items,
        read x = read' x := by
      intro f hf items hitems x hx
      have hheight : x.height < f.2.height := by
        have hlist : f.2 = .list items := hitems
        rw [hlist, Tree.height]
        exact Nat.lt_succ_of_le (Tree.height_le_itemsHeight hx)
      exact h x (Nat.lt_trans hheight (hlower hfound f hf))
    have hitems := Dialect.required_congr (fun f hf => Dialect.list_congr (hitem f hf))
      "strategies"
    simp only [hitems]

/-- How deep a reader may go makes no difference, if it may go as deep as the tree is. -/
theorem ofTreeWithin_congr {n m : Nat} {t : Tree} (hn : t.height ≤ n) (hm : t.height ≤ m)
    (d : Dialect) : ofTreeWithin n d t = ofTreeWithin m d t := by
  have hpos := t.height_pos
  induction n generalizing m t d with
  | zero => omega
  | succ n ih =>
    obtain ⟨m, rfl⟩ : ∃ k, m = k + 1 := ⟨m - 1, by omega⟩
    refine ofTreeBy_congr (fun inner hinner => ?_) d
    exact ih (by omega) (by omega) .variant inner.height_pos

/-- A strategy is read by reading the strategies inside it in the same way. -/
theorem ofTree_eq (d : Dialect) (t : Tree) : ofTree d t = ofTreeBy (ofTree .variant) d t := by
  have hdeeper : ofTree d t = ofTreeWithin (t.height + 1) d t :=
    ofTreeWithin_congr (Nat.le_refl _) (Nat.le_succ _) d
  rw [hdeeper]
  exact ofTreeBy_congr (fun inner hinner =>
    ofTreeWithin_congr (Nat.le_of_lt hinner) (Nat.le_refl _) .variant) d

end StrategyConfig

end ComponentSupport
