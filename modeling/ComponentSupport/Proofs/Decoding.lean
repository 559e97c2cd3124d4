import ComponentSupport.Document.Dialects
import ComponentSupport.Proofs.Results

/-!
# Decoding

What every dialect reads alike: a text, a truth value and a number as themselves, a list item by
item, and a record whose keys are known names, each given once, as its fields
(`Dialect.fields_object`). Data that is written with such parts is read back by the steps of its
reader, one lemma a step.

Of a record that was not written so, the fields that are found are those that joined one another,
one by one, each under a name that was not found before (`Dialect.foldlM_addField_induction`).
-/

namespace ComponentSupport.Dialect

variable {α : Type} (d : Dialect)

/-! ### Scalars and lists -/

@[simp] theorem strip_text (s : String) : d.strip (.text s) = .text s := by
  unfold strip
  split <;> rfl

@[simp] theorem strip_bool (b : Bool) : d.strip (.bool b) = .bool b := by
  unfold strip
  split <;> rfl

@[simp] theorem strip_int (n : Int) : d.strip (.int n) = .int n := by
  unfold strip
  split <;> rfl

@[simp] theorem strip_list (items : List Tree) : d.strip (.list items) = .list items := by
  unfold strip
  split <;> rfl

@[simp] theorem strip_record (fields : List (Tree × Tree)) :
    d.strip (.record fields) = .record fields := by
  unfold strip
  split <;> rfl

@[simp] theorem text_text (s : String) : d.text (.text s) = .ok s := by
  rw [text, strip_text]

@[simp] theorem bool_bool (b : Bool) : d.bool (.bool b) = .ok b := by
  rw [bool, strip_bool]

theorem nat_int (bits : Nat) {n : Nat} (h : n < Nat.pow 2 bits) : d.nat bits (.int n) = .ok n := by
  rw [nat, strip_int]
  exact if_pos h

/-- A list is read back if each of its items is. -/
theorem list_map {f : α → Tree} {read : Tree → Except DecodeError α} {l : List α}
    (h : ∀ x ∈ l, read (f x) = .ok x) : d.list read (.list (l.map f)) = .ok l := by
  rw [list, strip_list]
  exact mapM_eq_ok_iff.2 (List.forall₂_map_left_iff.2 (List.forall₂_same.2 h))

@[simp] theorem texts_texts (l : List String) : d.texts (.texts l) = .ok l :=
  d.list_map fun s _ => d.text_text s

/-! ### Records that were written -/

theorem find?_beq_of_mem {known : List String} {name : String} (h : name ∈ known) :
    known.find? (· == name) = some name := by
  cases hfind : known.find? (· == name) with
  | none => exact absurd (List.find?_eq_none.1 hfind name h) (by simp)
  | some x => rw [show x = name by simpa using List.find?_some hfind]

/-- A field that is known and was not there before joins those that were. -/
theorem addField_text {known : List String} (strict : Bool) {found : List (String × Tree)}
    {name : String} (value : Tree) (hknown : name ∈ known) (hnew : ∀ f ∈ found, f.1 ≠ name) :
    d.addField known strict found (.text name, value) = .ok (found ++ [(name, value)]) := by
  have hany : found.any (·.1 == name) = false := by
    simpa using hnew
  simp only [addField, field?, strip_text, find?_beq_of_mem hknown, ok_bind, hany]
  rfl

/-- The fields of a record that was written are those that were written into it. -/
theorem fields_object {known : List String} (strict : Bool) {fs : List (String × Tree)}
    (hknown : ∀ f ∈ fs, f.1 ∈ known) (hnames : (fs.map (·.1)).Nodup) :
    d.fields known strict (.object fs) = .ok fs := by
  have hfold : ∀ found : List (String × Tree), ((found ++ fs).map (·.1)).Nodup →
      (fs.map fun f => (Tree.text f.1, f.2)).foldlM (d.addField known strict) found =
        .ok (found ++ fs) := by
    clear hnames
    induction fs with
    | nil =>
      intro found _
      rw [List.append_nil]
      rfl
    | cons f rest ih =>
      intro found hfound
      rw [List.forall_mem_cons] at hknown
      have hnew : ∀ g ∈ found, g.1 ≠ f.1 := by
        intro g hg
        rw [List.map_append, List.nodup_append] at hfound
        exact hfound.2.2 g.1 (List.mem_map_of_mem hg) f.1 List.mem_cons_self
      rw [List.append_cons] at hfound ⊢
      rw [List.map_cons, List.foldlM_cons, d.addField_text strict f.2 hknown.1 hnew]
      exact ih hknown.2 (found ++ [f]) hfound
  rw [Tree.object, fields, strip_record]
  exact hfold [] hnames

/-! ### The fields that are found -/

section found

variable {d} {known : List String} {strict : Bool} {fields : List (Tree × Tree)}
  {before found : List (String × Tree)}

/-- What a field of a record can do: it means nothing, to a reader that is not strict, or it joins
the fields found before it, none of which has its name. -/
theorem addField_eq_ok_iff {field : Tree × Tree} {after : List (String × Tree)} :
    d.addField known strict found field = .ok after ↔
      (d.field? known field.1 = .ok none ∧ strict = false ∧ after = found) ∨
      ∃ name, d.field? known field.1 = .ok (some name) ∧ (∀ f ∈ found, f.1 ≠ name) ∧
        after = found ++ [(name, field.2)] := by
  rw [addField, bind_eq_ok_iff]
  constructor
  · rintro ⟨name?, hname, h⟩
    cases name? with
    | none =>
      cases strict with
      | true => cases h
      | false => exact Or.inl ⟨hname, rfl, (Except.ok.inj h).symm⟩
    | some name =>
      rw [guard_eq_ok_iff, pure_eq_ok_iff] at h
      refine Or.inr ⟨name, hname, fun f hf heq => h.1 ?_, h.2.symm⟩
      exact List.any_eq_true.2 ⟨f, hf, beq_iff_eq.2 heq⟩
  · rintro (⟨hname, rfl, rfl⟩ | ⟨name, hname, hnew, rfl⟩)
    · exact ⟨none, hname, rfl⟩
    · refine ⟨some name, hname, ?_⟩
      rw [guard_eq_ok_iff, pure_eq_ok_iff]
      refine ⟨fun hany => ?_, rfl⟩
      obtain ⟨f, hf, heq⟩ := List.any_eq_true.1 hany
      exact hnew f hf (beq_iff_eq.1 heq)

/-- What holds of the fields found first, and stays true when a field of the record joins them under
a new name, holds of the fields that are found in the end. -/
theorem foldlM_addField_induction {motive : List (String × Tree) → Prop}
    (h : fields.foldlM (d.addField known strict) before = .ok found) (hbefore : motive before)
    (hstep : ∀ found name, ∀ f ∈ fields, motive found → (∀ g ∈ found, g.1 ≠ name) →
      motive (found ++ [(name, f.2)])) :
    motive found := by
  induction fields generalizing before with
  | nil =>
    obtain rfl := Except.ok.inj h
    exact hbefore
  | cons first rest ih =>
    rw [List.foldlM_cons, bind_eq_ok_iff] at h
    obtain ⟨next, hnext, h⟩ := h
    refine ih h ?_ fun found name f hf => hstep found name f (List.mem_cons_of_mem first hf)
    rcases addField_eq_ok_iff.1 hnext with ⟨-, -, rfl⟩ | ⟨name, -, hnew, rfl⟩
    · exact hbefore
    · exact hstep before name first List.mem_cons_self hbefore hnew

/-- The fields that are found are fields of the record. -/
theorem mem_of_foldlM_addField (h : fields.foldlM (d.addField known strict) [] = .ok found)
    {f : String × Tree} (hf : f ∈ found) : ∃ key, (key, f.2) ∈ fields := by
  refine foldlM_addField_induction (motive := fun found => ∀ f ∈ found, ∃ key, (key, f.2) ∈ fields)
    h (fun f hf => nomatch hf) (fun found name g hg ih _ f hf => ?_) f hf
  rcases List.mem_append.1 hf with hf | hf
  · exact ih f hf
  · rw [List.mem_singleton.1 hf]
    exact ⟨g.1, hg⟩

/-- The fields that were found before are found. -/
theorem mem_foldlM_addField (h : fields.foldlM (d.addField known strict) before = .ok found)
    {f : String × Tree} (hf : f ∈ before) : f ∈ found :=
  foldlM_addField_induction (motive := fun found => f ∈ found) h hf
    fun _ _ _ _ hmem _ => List.mem_append_left _ hmem

/-- No two fields of one name are found, where no list stands for a record. -/
theorem nodup_fields {t : Tree} (hpositional : d.positional = false)
    (h : d.fields known strict t = .ok found) : (found.map (·.1)).Nodup := by
  unfold Dialect.fields at h
  split at h
  · refine foldlM_addField_induction (motive := fun found => (found.map (·.1)).Nodup) h
      List.nodup_nil fun found name f _ hfound hnew => ?_
    rw [List.map_append, List.nodup_append]
    refine ⟨hfound, by simp, ?_⟩
    rintro _ hmem _ hname rfl
    obtain ⟨g, hg, rfl⟩ := List.mem_map.1 hmem
    exact hnew g hg (List.mem_singleton.1 hname)
  · rw [hpositional] at h
    cases h
  · split at h
    · obtain rfl := Except.ok.inj h
      exact List.nodup_nil
    · cases h
  · cases h

/-- Among fields with distinct names, each is found under its name. -/
theorem find?_of_nodup {l : List (String × α)} (hnames : (l.map (·.1)).Nodup) {f : String × α}
    (hf : f ∈ l) : l.find? (·.1 == f.1) = some f := by
  induction l with
  | nil => cases hf
  | cons g rest ih =>
    rw [List.map_cons, List.nodup_cons] at hnames
    rcases List.mem_cons.1 hf with rfl | hf
    · simp
    · have hne : g.1 ≠ f.1 := fun heq => hnames.1 (heq ▸ List.mem_map_of_mem hf)
      rw [List.find?_cons_of_neg (by simpa using hne)]
      exact ih hnames.2 hf

theorem optional_of_mem (hnames : (found.map (·.1)).Nodup) {f : String × Tree} (hf : f ∈ found)
    {default : α} {read : Tree → Except DecodeError α} :
    optional found f.1 default read = read f.2 := by
  rw [optional, find?_of_nodup hnames hf]

end found

end ComponentSupport.Dialect
