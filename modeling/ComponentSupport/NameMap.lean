/-!
# Maps from names

A `NameMap` gives a value to each of finitely many names. It is kept as the list of its entries in
increasing code-point order of the names, so that it is read out in that order however it was built.
A name that is entered again keeps the later value.

Every operation is described by what the names are found to have afterwards: `find?_insert`,
`find?_ofList`, `find?_modify`, `find?_map`. Two maps in which the same is found are equal
(`NameMap.ext`), and a map is built from what it is read out as (`ofList_toList`).
-/

namespace ComponentSupport

/-- A finite map from names, listed with strictly increasing names. -/
structure NameMap (α : Type) where
  /-- The entries, the smallest name first. -/
  toList : List (String × α)
  /-- Each name is smaller than every later one. -/
  sorted : toList.Pairwise fun a b => a.1 < b.1

namespace NameMap

variable {α : Type}

/-- The map without entries. -/
def empty : NameMap α := ⟨[], .nil⟩

instance : EmptyCollection (NameMap α) := ⟨empty⟩

instance : Inhabited (NameMap α) := ⟨empty⟩

/-- The names that have a value. -/
def keys (m : NameMap α) : List String := m.toList.map (·.1)

/-- The value of a name. -/
def find? (m : NameMap α) (name : String) : Option α :=
  (m.toList.find? (·.1 == name)).map (·.2)

@[simp] theorem find?_empty (name : String) : (∅ : NameMap α).find? name = none := rfl

theorem mem_keys_iff {m : NameMap α} {name : String} :
    name ∈ m.keys ↔ (m.find? name).isSome = true := by
  simp [keys, find?]

/-- The entries are the names with what is found for them. -/
theorem mem_toList_iff {m : NameMap α} {name : String} {value : α} :
    (name, value) ∈ m.toList ↔ m.find? name = some value := by
  obtain ⟨l, hl⟩ := m
  simp only [find?]
  induction l with
  | nil => simp
  | cons entry rest ih =>
    rw [List.pairwise_cons] at hl
    by_cases h : entry.1 = name
    · obtain ⟨key, first⟩ := entry
      obtain rfl : key = name := h
      have hrest : (key, value) ∉ rest := fun hmem => String.lt_irrefl key (hl.1 _ hmem)
      simp [hrest, eq_comm]
    · have hne : (name, value) ≠ entry := fun heq => h (heq ▸ rfl)
      rw [List.mem_cons, or_iff_right hne, ih hl.2, List.find?_cons_of_neg (by simpa using h)]

/-- Puts an entry into its place in an ordered list; it takes the place of one of that name. -/
def insertSorted (name : String) (value : α) : List (String × α) → List (String × α)
  | [] => [(name, value)]
  | entry :: rest =>
    if name < entry.1 then (name, value) :: entry :: rest
    else if name = entry.1 then (name, value) :: rest
    else entry :: insertSorted name value rest

theorem key_of_mem_insertSorted {name : String} {value : α} {l : List (String × α)}
    {e : String × α} (h : e ∈ insertSorted name value l) : e = (name, value) ∨ e ∈ l := by
  induction l with
  | nil => exact Or.inl (List.mem_singleton.1 h)
  | cons entry rest ih =>
    unfold insertSorted at h
    split at h
    · exact (List.mem_cons.1 h)
    · split at h
      · rcases List.mem_cons.1 h with h | h
        · exact Or.inl h
        · exact Or.inr (List.mem_cons_of_mem _ h)
      · rcases List.mem_cons.1 h with h | h
        · exact Or.inr (h ▸ List.mem_cons_self)
        · exact (ih h).imp id (List.mem_cons_of_mem _)

theorem insertSorted_sorted {name : String} {value : α} {l : List (String × α)}
    (h : l.Pairwise fun a b => a.1 < b.1) :
    (insertSorted name value l).Pairwise fun a b => a.1 < b.1 := by
  induction l with
  | nil => simp [insertSorted]
  | cons entry rest ih =>
    rw [List.pairwise_cons] at h
    unfold insertSorted
    split
    · next hlt =>
      refine List.pairwise_cons.2 ⟨fun e he => ?_, List.pairwise_cons.2 h⟩
      rcases List.mem_cons.1 he with rfl | he
      · exact hlt
      · exact String.lt_trans hlt (h.1 e he)
    · next hlt =>
      split
      · next heq => exact List.pairwise_cons.2 ⟨fun e he => heq ▸ h.1 e he, h.2⟩
      · next hne =>
        refine List.pairwise_cons.2 ⟨fun e he => ?_, ih h.2⟩
        rcases key_of_mem_insertSorted he with rfl | he
        · exact Decidable.byContradiction fun hle =>
            hne (String.le_antisymm (String.not_lt.1 hle) (String.not_lt.1 hlt))
        · exact h.1 e he

/-- The map with one more entry, or with one entry changed. -/
def insert (m : NameMap α) (name : String) (value : α) : NameMap α :=
  ⟨insertSorted name value m.toList, insertSorted_sorted m.sorted⟩

/-- The map of a list of entries; of several entries for a name the last one counts. -/
def ofList (entries : List (String × α)) : NameMap α :=
  entries.foldl (fun m entry => m.insert entry.1 entry.2) ∅

theorem find?_insert (m : NameMap α) (name : String) (value : α) (other : String) :
    (m.insert name value).find? other = if name = other then some value else m.find? other := by
  have hlist : ∀ l : List (String × α),
      ((insertSorted name value l).find? (·.1 == other)).map (·.2) =
        if name = other then some value else (l.find? (·.1 == other)).map (·.2) := by
    intro l
    induction l with
    | nil => by_cases h : name = other <;> simp [insertSorted, h]
    | cons entry rest ih =>
      unfold insertSorted
      split
      · by_cases h : name = other <;> simp [h]
      · split
        · next heq => by_cases h : name = other <;> simp [← heq, h]
        · next hne =>
          by_cases hentry : entry.1 = other
          · simp [← hentry, hne]
          · simpa [hentry] using ih
  exact hlist m.toList

/-- A map that gives each of several names the value that belongs to it. -/
theorem find?_ofList (names : List String) (value : String → α) (name : String) :
    (ofList (names.map fun n => (n, value n))).find? name =
      if name ∈ names then some (value name) else none := by
  have hfold : ∀ m : NameMap α,
      ((names.map fun n => (n, value n)).foldl (fun m entry => m.insert entry.1 entry.2) m).find?
        name = if name ∈ names then some (value name) else m.find? name := by
    induction names with
    | nil => simp
    | cons first rest ih =>
      intro m
      rw [List.map_cons, List.foldl_cons, ih, find?_insert]
      by_cases hrest : name ∈ rest
      · simp [hrest]
      · by_cases hfirst : first = name
        · simp [hrest, hfirst]
        · simp [hrest, hfirst, Ne.symm hfirst]
  exact hfold ∅

/-! ### Changing values -/

/-- The map with the value of one name changed, if the name has one. -/
def modify (m : NameMap α) (name : String) (f : α → α) : NameMap α :=
  ⟨m.toList.map fun entry => (entry.1, if name = entry.1 then f entry.2 else entry.2),
    List.pairwise_map.2 m.sorted⟩

/-- The map with every value changed. -/
def map (m : NameMap α) (f : α → α) : NameMap α :=
  ⟨m.toList.map fun entry => (entry.1, f entry.2), List.pairwise_map.2 m.sorted⟩

theorem find?_modify (m : NameMap α) (name : String) (f : α → α) (other : String) :
    (m.modify name f).find? other =
      if name = other then (m.find? other).map f else m.find? other := by
  simp only [find?, modify, List.find?_map, Option.map_map]
  show Option.map _ (m.toList.find? (·.1 == other)) = _
  cases hfound : m.toList.find? (·.1 == other) with
  | none => simp
  | some entry =>
    obtain rfl : entry.1 = other := by simpa using List.find?_some hfound
    by_cases h : name = entry.1 <;> simp [h]

theorem find?_map (m : NameMap α) (f : α → α) (name : String) :
    (m.map f).find? name = (m.find? name).map f := by
  simp only [find?, map, List.find?_map, Option.map_map]
  rfl

/-! ### Maps are what is found in them -/

/-- Maps in which the same is found for every name are equal. -/
@[ext] theorem ext {m m' : NameMap α} (h : ∀ name, m.find? name = m'.find? name) : m = m' := by
  have hnodup : ∀ m : NameMap α, m.toList.Nodup := fun m =>
    m.sorted.imp fun {a b} (hab : a.1 < b.1) (heq : a = b) => String.lt_irrefl b.1 (heq ▸ hab)
  have hperm : m.toList.Perm m'.toList := by
    rw [List.perm_ext_iff_of_nodup (hnodup m) (hnodup m')]
    intro (name, value)
    rw [mem_toList_iff, mem_toList_iff, h]
  have hlist : m.toList = m'.toList :=
    hperm.eq_of_pairwise (fun _ _ _ _ hab hba => absurd hba (String.lt_asymm hab)) m.sorted m'.sorted
  cases m
  cases m'
  cases hlist
  rfl

/-- Reading a map out and building it again gives the map. -/
@[simp] theorem ofList_toList (m : NameMap α) : ofList m.toList = m := by
  have hfold : ∀ (l : List (String × α)) (m' : NameMap α) (name : String),
      (l.Pairwise fun a b => a.1 < b.1) →
      (l.foldl (fun m entry => m.insert entry.1 entry.2) m').find? name =
        ((l.find? (·.1 == name)).map (·.2)).or (m'.find? name) := by
    intro l
    induction l with
    | nil => simp
    | cons entry rest ih =>
      intro m' name hl
      rw [List.pairwise_cons] at hl
      rw [List.foldl_cons, ih _ _ hl.2, find?_insert]
      by_cases h : entry.1 = name
      · have hrest : rest.find? (·.1 == name) = none := by
          rw [List.find?_eq_none]
          intro e he heq
          have hlt := hl.1 e he
          rw [h, beq_iff_eq.1 heq] at hlt
          exact String.lt_irrefl name hlt
        simp [h, hrest]
      · simp [h]
  ext1 name
  rw [ofList, hfold m.toList ∅ name m.sorted]
  show (m.find? name).or none = m.find? name
  exact Option.or_none

end NameMap

end ComponentSupport
