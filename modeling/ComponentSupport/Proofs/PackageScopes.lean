import ComponentSupport.Proofs.Segments

/-!
# Packages as lists of segments

Whether a type lies in a package, or below it, is decided on texts: the package of the type is compared
with the other one, or it has to go on with a separator after it, and the root package, which is the
empty text, has everything below it. This module says what that means for the segments of names. The
main theorem, `PackageScope.contains_iff_segments`, says that a package lies below another just when
its segments begin with the segments of the other, the root package having none.

The idea is that a text which begins with a package and then a separator is taken apart after the
last segment of the package (`Convention.segments_intercalate_append`): no separator can begin earlier
and reach over the end of the package. On texts of any kind `Convention.isWithin` is still an order.
-/

namespace ComponentSupport

namespace Convention

variable {c : Convention}

/-! ### An order on texts -/

theorem isWithin_iff (c : Convention) (package ancestor : String) :
    c.isWithin package ancestor = true ↔
      ancestor = "" ∨ package = ancestor ∨
        ∃ rest, package.toList = ancestor.toList ++ (c.separator ++ rest) := by
  simp only [isWithin, Bool.or_eq_true, String.isEmpty_iff, beq_iff_eq, List.isPrefixOf_iff_prefix,
    or_assoc, List.IsPrefix, List.append_assoc, eq_comm (a := package.toList)]

theorem isWithin_refl (c : Convention) (package : String) : c.isWithin package package = true :=
  (c.isWithin_iff package package).2 (Or.inr (Or.inl rfl))

theorem isWithin_trans {p q r : String} (hpq : c.isWithin p q = true)
    (hqr : c.isWithin q r = true) : c.isWithin p r = true := by
  rw [isWithin_iff] at *
  rcases hqr with hr | rfl | ⟨rest, hq⟩
  · exact Or.inl hr
  · exact hpq
  · rcases hpq with rfl | rfl | ⟨rest', hp⟩
    · -- the root package goes on with nothing
      cases c <;> simp [separator] at hq
    · exact Or.inr (Or.inr ⟨rest, hq⟩)
    · refine Or.inr (Or.inr ⟨rest ++ (c.separator ++ rest'), ?_⟩)
      rw [hp, hq]
      simp only [List.append_assoc]

/-- What lies below a package is written with more characters. -/
theorem eq_or_length_lt_of_isWithin {p q : String} (h : c.isWithin p q = true) :
    p = q ∨ q.toList.length < p.toList.length := by
  rw [isWithin_iff] at h
  rcases h with rfl | rfl | ⟨rest, hp⟩
  · rcases eq_or_ne p "" with rfl | hp
    · exact Or.inl rfl
    · exact Or.inr (List.length_pos_of_ne_nil (by simpa using hp))
  · exact Or.inl rfl
  · refine Or.inr ?_
    have hseparator : 0 < c.separator.length := by cases c <;> decide
    rw [hp, List.length_append, List.length_append]
    omega

theorem isWithin_antisymm {p q : String} (hpq : c.isWithin p q = true)
    (hqp : c.isWithin q p = true) : p = q := by
  rcases eq_or_length_lt_of_isWithin hpq with heq | hlt
  · exact heq
  · rcases eq_or_length_lt_of_isWithin hqp with heq | hlt'
    · exact heq.symm
    · omega

/-! ### Packages and their segments -/

theorem intercalate_eq_nil_iff {parts : List (List Char)} (h : ∀ s ∈ parts, s ≠ []) :
    c.separator.intercalate parts = [] ↔ parts = [] := by
  constructor
  · intro hjoin
    cases parts with
    | nil => rfl
    | cons s rest =>
      rw [List.forall_mem_cons] at h
      rcases eq_or_ne rest [] with rfl | hrest
      · rw [List.intercalate_singleton] at hjoin
        exact absurd hjoin h.1
      · rw [intercalate_cons_of_ne_nil _ _ hrest] at hjoin
        exact absurd (List.append_eq_nil_iff.1 hjoin).1 h.1
  · rintro rfl
    exact List.intercalate_nil

/-- Packages of different segments are different texts. -/
theorem intercalate_inj {parts parts' : List (List Char)}
    (h : ∀ s ∈ parts, s ≠ [] ∧ c.reserved ∉ s) (h' : ∀ s ∈ parts', s ≠ [] ∧ c.reserved ∉ s) :
    c.separator.intercalate parts = c.separator.intercalate parts' ↔ parts = parts' := by
  refine ⟨fun hjoin => ?_, congrArg _⟩
  have hnil := intercalate_eq_nil_iff (c := c) fun s hs => (h s hs).1
  have hnil' := intercalate_eq_nil_iff (c := c) fun s hs => (h' s hs).1
  rcases eq_or_ne parts [] with rfl | hne
  · exact (hnil'.1 (hjoin.symm.trans List.intercalate_nil)).symm
  · have hne' : parts' ≠ [] := fun heq => hne (hnil.1 (hjoin.trans (hnil'.2 heq)))
    rw [← segments_intercalate hne fun s hs => (h s hs).2, hjoin,
      segments_intercalate hne' fun s hs => (h' s hs).2]

/-- A package lies within another when its segments begin with those of the other. -/
theorem isWithin_intercalate {parts parts' : List (List Char)}
    (h : ∀ s ∈ parts, s ≠ [] ∧ c.reserved ∉ s) (h' : ∀ s ∈ parts', s ≠ [] ∧ c.reserved ∉ s) :
    c.isWithin (String.ofList (c.separator.intercalate parts'))
      (String.ofList (c.separator.intercalate parts)) = true ↔ parts <+: parts' := by
  have hempty : String.ofList (c.separator.intercalate parts) = "" ↔ parts = [] := by
    rw [← intercalate_eq_nil_iff (c := c) fun s hs => (h s hs).1, ← String.toList_inj]
    simp
  rw [isWithin_iff, hempty, String.ofList_inj, intercalate_inj h' h]
  simp only [String.toList_ofList]
  constructor
  · rintro (rfl | rfl | ⟨rest, hjoin⟩)
    · exact List.nil_prefix
    · exact List.prefix_rfl
    · rcases eq_or_ne parts [] with rfl | hne
      · exact List.nil_prefix
      · have hne' : parts' ≠ [] := by
          rintro rfl
          cases c <;> simp [separator] at hjoin
        -- the scan takes both sides apart
        refine ⟨c.segments rest, ?_⟩
        rw [← segments_intercalate_append hne fun s hs => (h s hs).2, ← hjoin,
          segments_intercalate hne' fun s hs => (h' s hs).2]
  · rintro ⟨more, rfl⟩
    rcases eq_or_ne parts [] with rfl | hne
    · exact Or.inl rfl
    · rcases eq_or_ne more [] with rfl | hmore
      · exact Or.inr (Or.inl (List.append_nil parts))
      · exact Or.inr (Or.inr ⟨_, intercalate_append_of_ne_nil _ hne hmore⟩)

theorem packageOf_of_split {name package simple : String}
    (h : c.split name = .ok (package, simple)) : c.packageOf name = .ok package := by
  rw [packageOf, h]
  rfl

end Convention

namespace PackageScope

theorem contains_exact {c : Convention} {name own : String} (h : c.packageOf name = .ok own)
    (package : String) : exact.contains c package name = .ok (own == package) := by
  rw [contains, h]
  rfl

theorem contains_subpackages {c : Convention} {name own : String} (h : c.packageOf name = .ok own)
    (package : String) : subpackages.contains c package name = .ok (c.isWithin own package) := by
  rw [contains, h]
  rfl

/-- **Package scopes**: for any two names that are accepted, each with its segments, the second lies in
the package of the first just when both have the same segments before the last, and in the package or
below it just when those of the second begin with those of the first. On texts of any kind, lying
within a package is reflexive, transitive and antisymmetric. -/
theorem contains_iff_segments (c : Convention) :
    (∀ m n, (∃ pair, c.split m = .ok pair) → (∃ pair, c.split n = .ok pair) →
      ∃ parts parts' package member below, c.Spells parts m ∧ c.Spells parts' n ∧
        c.packageOf m = .ok package ∧
        exact.contains c package n = .ok member ∧
        (member = true ↔ parts.dropLast = parts'.dropLast) ∧
        subpackages.contains c package n = .ok below ∧
        (below = true ↔ parts.dropLast <+: parts'.dropLast)) ∧
    (∀ p, c.isWithin p p = true) ∧
    (∀ p q r, c.isWithin p q = true → c.isWithin q r = true → c.isWithin p r = true) ∧
    (∀ p q, c.isWithin p q = true → c.isWithin q p = true → p = q) := by
  refine ⟨?_, c.isWithin_refl, fun _ _ _ => Convention.isWithin_trans,
    fun _ _ => Convention.isWithin_antisymm⟩
  rintro m n ⟨pair, hm⟩ ⟨pair', hn⟩
  obtain ⟨-, init, last, hspells, rfl⟩ := Convention.split_eq_ok_iff.1 hm
  obtain ⟨-, init', last', hspells', rfl⟩ := Convention.split_eq_ok_iff.1 hn
  have hinit : ∀ s ∈ init, s ≠ [] ∧ c.reserved ∉ s :=
    fun s hs => hspells.segment s (List.mem_append_left _ hs)
  have hinit' : ∀ s ∈ init', s ≠ [] ∧ c.reserved ∉ s :=
    fun s hs => hspells'.segment s (List.mem_append_left _ hs)
  have hown : c.packageOf n = _ := Convention.packageOf_of_split hn
  refine ⟨_, _, _, _, _, hspells, hspells', Convention.packageOf_of_split hm,
    contains_exact hown _, ?_, contains_subpackages hown _, ?_⟩
  · rw [beq_iff_eq, String.ofList_inj, Convention.intercalate_inj hinit' hinit,
      List.dropLast_concat, List.dropLast_concat]
    exact eq_comm
  · rw [Convention.isWithin_intercalate hinit hinit', List.dropLast_concat, List.dropLast_concat]

end PackageScope

end ComponentSupport
