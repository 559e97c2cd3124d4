/-!
# Sets of type names

A `NameSet` is a finite set of names, kept as the list of its members in increasing code-point
order. Two sets with the same members are therefore equal (`NameSet.ext`), and the order in which a
set is read out never depends on how it was built.

Every operation is described by its members: `mem_insert`, `mem_ofList`, `mem_union`, `mem_filter`.
-/

namespace ComponentSupport

/-- A finite set of names, listed in strictly increasing order. -/
structure NameSet where
  /-- The members, smallest first. -/
  toList : List String
  /-- Each member is smaller than every later one. -/
  sorted : toList.Pairwise (· < ·)
  deriving DecidableEq

namespace NameSet

instance : Membership String NameSet where
  mem s x := x ∈ s.toList

theorem mem_def {s : NameSet} {x : String} : x ∈ s ↔ x ∈ s.toList := Iff.rfl

instance (x : String) (s : NameSet) : Decidable (x ∈ s) :=
  inferInstanceAs (Decidable (x ∈ s.toList))

/-- The set without members. -/
def empty : NameSet := ⟨[], .nil⟩

instance : EmptyCollection NameSet := ⟨empty⟩

instance : Inhabited NameSet := ⟨empty⟩

/-- The number of members. -/
def size (s : NameSet) : Nat := s.toList.length

/-- No member at all. -/
def isEmpty (s : NameSet) : Bool := s.toList.isEmpty

@[simp] theorem toList_empty : (∅ : NameSet).toList = [] := rfl

@[simp] theorem not_mem_empty (x : String) : x ∉ (∅ : NameSet) := List.not_mem_nil

/-! ### Ordered insertion -/

/-- Puts a name into its place in an ordered list; a name that is there stays there once. -/
def insertSorted (x : String) : List String → List String
  | [] => [x]
  | y :: rest =>
    if x < y then x :: y :: rest
    else if x = y then y :: rest
    else y :: insertSorted x rest

@[simp] theorem mem_insertSorted {x y : String} {l : List String} :
    y ∈ insertSorted x l ↔ y = x ∨ y ∈ l := by
  induction l with
  | nil => simp [insertSorted]
  | cons z rest ih =>
    unfold insertSorted
    split
    · simp
    · split
      · next h => subst h; simp
      · simp only [List.mem_cons, ih]
        constructor
        · rintro (h | h | h) <;> simp [h]
        · rintro (h | h | h) <;> simp [h]

theorem insertSorted_sorted {x : String} {l : List String} (h : l.Pairwise (· < ·)) :
    (insertSorted x l).Pairwise (· < ·) := by
  induction l with
  | nil => simp [insertSorted]
  | cons y rest ih =>
    rw [List.pairwise_cons] at h
    unfold insertSorted
    split
    · next hxy =>
      refine List.pairwise_cons.2 ⟨fun z hz => ?_, List.pairwise_cons.2 h⟩
      rcases List.mem_cons.1 hz with rfl | hz
      · exact hxy
      · exact String.lt_trans hxy (h.1 z hz)
    · next hxy =>
      split
      · exact List.pairwise_cons.2 h
      · next hne =>
        refine List.pairwise_cons.2 ⟨fun z hz => ?_, ih h.2⟩
        rcases mem_insertSorted.1 hz with rfl | hz
        · exact Decidable.byContradiction fun hlt =>
            hne (String.le_antisymm (String.not_lt.1 hlt) (String.not_lt.1 hxy))
        · exact h.1 z hz

/-- The set with one more member. -/
def insert (s : NameSet) (x : String) : NameSet :=
  ⟨insertSorted x s.toList, insertSorted_sorted s.sorted⟩

@[simp] theorem mem_insert {s : NameSet} {x y : String} : y ∈ s.insert x ↔ y = x ∨ y ∈ s :=
  mem_insertSorted

theorem length_insertSorted {x : String} {l : List String} (h : x ∉ l) :
    (insertSorted x l).length = l.length + 1 := by
  induction l with
  | nil => rfl
  | cons y rest ih =>
    rw [List.mem_cons, not_or] at h
    unfold insertSorted
    split
    · rfl
    · rw [if_neg h.1, List.length_cons, ih h.2, List.length_cons]

/-- A new member makes a set larger by one. -/
theorem size_insert {s : NameSet} {x : String} (h : x ∉ s) : (s.insert x).size = s.size + 1 :=
  length_insertSorted h

/-! ### Building and combining sets -/

/-- The set with the members of a list added. -/
def insertAll (s : NameSet) (names : List String) : NameSet :=
  names.foldl insert s

@[simp] theorem mem_insertAll {s : NameSet} {names : List String} {x : String} :
    x ∈ s.insertAll names ↔ x ∈ names ∨ x ∈ s := by
  induction names generalizing s with
  | nil => simp [insertAll]
  | cons y rest ih =>
    have h : s.insertAll (y :: rest) = (s.insert y).insertAll rest := rfl
    rw [h, ih, mem_insert, List.mem_cons]
    constructor
    · rintro (h | h | h) <;> simp [h]
    · rintro ((h | h) | h) <;> simp [h]

/-- The set of the members of a list; order and repetitions of the list do not matter. -/
def ofList (names : List String) : NameSet :=
  insertAll ∅ names

@[simp] theorem mem_ofList {names : List String} {x : String} : x ∈ ofList names ↔ x ∈ names := by
  simp [ofList]

/-- The members of either set. -/
def union (s t : NameSet) : NameSet :=
  s.insertAll t.toList

instance : Union NameSet := ⟨union⟩

@[simp] theorem mem_union {s t : NameSet} {x : String} : x ∈ s ∪ t ↔ x ∈ s ∨ x ∈ t := by
  show x ∈ s.insertAll t.toList ↔ _
  rw [mem_insertAll, mem_def, mem_def, or_comm]

/-- The members that pass a test. -/
def filter (s : NameSet) (p : String → Bool) : NameSet :=
  ⟨s.toList.filter p, s.sorted.filter p⟩

@[simp] theorem mem_filter {s : NameSet} {p : String → Bool} {x : String} :
    x ∈ s.filter p ↔ x ∈ s ∧ p x = true :=
  List.mem_filter

/-- The members of the first set that are not in the second. -/
def diff (s t : NameSet) : NameSet :=
  s.filter fun x => decide (x ∉ t)

instance : SDiff NameSet := ⟨diff⟩

@[simp] theorem mem_sdiff {s t : NameSet} {x : String} : x ∈ s \ t ↔ x ∈ s ∧ x ∉ t := by
  show x ∈ s.filter _ ↔ _
  simp

/-- The set without one name. -/
def erase (s : NameSet) (x : String) : NameSet :=
  s.filter (· != x)

@[simp] theorem mem_erase {s : NameSet} {x y : String} : y ∈ s.erase x ↔ y ∈ s ∧ y ≠ x := by
  simp [erase]

/-! ### Sets are their members -/

/-- A list in strictly increasing order has no repetitions. -/
theorem nodup_of_increasing {l : List String} (h : l.Pairwise (· < ·)) : l.Nodup :=
  h.imp fun {a b} (hab : a < b) (heq : a = b) => String.lt_irrefl b (heq ▸ hab)

/-- A list in strictly increasing order is given by its members. -/
theorem increasing_eq_of_mem_iff {l m : List String} (hl : l.Pairwise (· < ·))
    (hm : m.Pairwise (· < ·)) (h : ∀ x, x ∈ l ↔ x ∈ m) : l = m := by
  have hperm : l.Perm m :=
    (List.perm_ext_iff_of_nodup (nodup_of_increasing hl) (nodup_of_increasing hm)).2 h
  exact hperm.eq_of_pairwise (fun _ _ _ _ hab hba => absurd hba (String.lt_asymm hab)) hl hm

/-- Sets with the same members are equal. -/
@[ext] theorem ext {s t : NameSet} (h : ∀ x, x ∈ s ↔ x ∈ t) : s = t := by
  cases s with
  | mk l hl =>
    cases t with
    | mk m hm =>
      have hlm : l = m := increasing_eq_of_mem_iff hl hm h
      subst hlm
      rfl

@[simp] theorem empty_union (s : NameSet) : ∅ ∪ s = s := by
  ext x
  simp

@[simp] theorem union_empty (s : NameSet) : s ∪ ∅ = s := by
  ext x
  simp

theorem union_assoc (s t u : NameSet) : s ∪ t ∪ u = s ∪ (t ∪ u) := by
  ext x
  simp only [mem_union, or_assoc]

/-- Reading a set out and building it again gives the set. -/
@[simp] theorem ofList_toList (s : NameSet) : ofList s.toList = s := by
  ext x
  rw [mem_ofList, mem_def]

/-- A name occurs at most once in the list of the members. -/
theorem nodup_toList (s : NameSet) : s.toList.Nodup :=
  nodup_of_increasing s.sorted

end NameSet

end ComponentSupport
