import ComponentSupport.Proofs.RecordedFacts
import ComponentSupport.Snapshot

/-!
# From snapshots to type graphs and back

A snapshot is turned into a type graph by recording what it says, and a type graph into a snapshot by
going through its references and its table of annotations. This module proves that nothing is lost on
the way, in either direction.

* `TypeGraphOn.SameAnswers` — two type graphs cannot be told apart by asking them.
* `Snapshot.IsNormalForm` — a snapshot says what another one says, in sorted lists without
  repetitions and with an entry for every type that the other mentions.
* `Snapshot.recaptured_keeps` — a graph that is described and built again gives the same answers; a
  snapshot that is built and described again becomes its normal form.

Both follow from one equation. Whatever the order in which references and annotations are put into
the entries, in the end the entry of a known type lists just what the graph answers for the type
(`TypeGraphOn.Represents.find?_ofGraph`), for a graph has each reference once, and at most one row of
annotations for a type.
-/

namespace ComponentSupport

/-! ### What can be asked of a type graph -/

/-- Two type graphs give the same answers to all questions. -/
structure TypeGraphOn.SameAnswers {G H : Type} [GraphStore G] [GraphStore H] (g : TypeGraphOn G)
    (h : TypeGraphOn H) : Prop where
  convention : g.convention = h.convention
  allTypes : g.allTypes = h.allTypes
  referencedTypes (name : String) : g.referencedTypes name = h.referencedTypes name
  annotationsOf (name : String) : g.annotationsOf name = h.annotationsOf name
  size : g.size = h.size
  referenceCount : g.referenceCount = h.referenceCount

namespace TypeGraphOn

variable {G : Type} [GraphStore G]

theorem convention_node (g : TypeGraphOn G) (name : String) :
    (g.node name).2.convention = g.convention := by
  unfold node
  split <;> rfl

theorem convention_addReference (g : TypeGraphOn G) (source target : String) :
    (g.addReference source target).convention = g.convention :=
  (convention_node _ target).trans (convention_node g source)

/-- Recording a fact changes nothing about how names are written. -/
theorem convention_record (g : TypeGraphOn G) (f : Fact) :
    (g.record f).convention = g.convention := by
  cases f with
  | type name => exact convention_node g name
  | reference source target => exact convention_addReference g source target
  | references source targets =>
    rw [← convention_node g source]
    show (targets.foldl _ (g.node source).2).convention = _
    generalize (g.node source).2 = g'
    induction targets generalizing g' with
    | nil => rfl
    | cons target rest ih => rw [List.foldl_cons, ih, convention_addReference]
  | annotated type name => exact convention_node g type

theorem convention_ofFacts (G : Type) [GraphStore G] (convention : Convention)
    (facts : List Fact) : (ofFacts convention facts : TypeGraphOn G).convention = convention := by
  have hfold : ∀ g : TypeGraphOn G, (facts.foldl record g).convention = g.convention := by
    induction facts with
    | nil => exact fun _ => rfl
    | cons f rest ih => exact fun g => (ih (g.record f)).trans (convention_record g f)
  exact hfold (empty convention)

namespace Represents

open GraphStore LawfulGraphStore

variable {g : TypeGraphOn G} {names : Finset String} {pairs annotations : List (String × String)}

theorem nodup_references (h : g.Represents names pairs annotations) : g.references.Nodup := by
  rw [h.references_eq]
  exact nodup_eraseDups pairs

theorem referenceCount_eq_card [LawfulGraphStore G] (h : g.Represents names pairs annotations) :
    g.referenceCount = pairs.toFinset.card := by
  have hset : g.references.toFinset = pairs.toFinset := by
    ext pair
    rw [List.mem_toFinset, List.mem_toFinset, h.references_eq, List.mem_eraseDups]
  rw [h.referenceCount_eq, ← hset, List.toFinset_card_of_nodup h.nodup_references]

/-- The answers depend on nothing but the relations that a graph stands for. -/
theorem sameAnswers {H : Type} [GraphStore H] [LawfulGraphStore G] [LawfulGraphStore H]
    {g' : TypeGraphOn H} {names' : Finset String} {pairs' annotations' : List (String × String)}
    (h : g.Represents names pairs annotations) (h' : g'.Represents names' pairs' annotations')
    (hconvention : g.convention = g'.convention) (hnames : ∀ n, n ∈ names ↔ n ∈ names')
    (hpairs : ∀ s t, (s, t) ∈ pairs ↔ (s, t) ∈ pairs')
    (hannotations : ∀ n a, (n, a) ∈ annotations ↔ (n, a) ∈ annotations') : g.SameAnswers g' where
  convention := hconvention
  allTypes := by
    ext n
    rw [h.mem_allTypes, h'.mem_allTypes, hnames]
  referencedTypes n := by
    ext t
    rw [h.mem_referencedTypes, h'.mem_referencedTypes, hpairs]
  annotationsOf n := by
    ext a
    rw [h.mem_annotationsOf, h'.mem_annotationsOf, hannotations]
  size := by
    have hset : names = names' := Finset.ext hnames
    exact h.nodeCount_eq.trans (hset ▸ h'.nodeCount_eq.symm)
  referenceCount := by
    have hset : pairs.toFinset = pairs'.toFinset := by
      ext ⟨s, t⟩
      rw [List.mem_toFinset, List.mem_toFinset, hpairs]
    rw [h.referenceCount_eq_card, h'.referenceCount_eq_card, hset]

end Represents

end TypeGraphOn

/-! ### What a snapshot says -/

namespace Snapshot

/-- What a snapshot says about a type: nothing if it has no entry for it. -/
def entry (s : Snapshot) (name : String) : SnapshotEntry :=
  (s.types.find? name).getD {}

/-- A snapshot mentions the types that it has entries for and those that these refer to. -/
def Mentions (s : Snapshot) (name : String) : Prop :=
  name ∈ s.types.keys ∨ ∃ source, name ∈ (s.entry source).references

theorem find?_eq_entry {s : Snapshot} {name : String} (h : name ∈ s.types.keys) :
    s.types.find? name = some (s.entry name) := by
  obtain ⟨e, he⟩ := Option.isSome_iff_exists.1 (NameMap.mem_keys_iff.1 h)
  rw [entry, he]
  rfl

theorem entry_of_notMem_keys {s : Snapshot} {name : String} (h : name ∉ s.types.keys) :
    s.entry name = {} := by
  rw [NameMap.mem_keys_iff, Option.not_isSome_iff_eq_none] at h
  rw [entry, h]
  rfl

/-- Something can be listed for a type only if it has an entry. -/
theorem mem_keys_of_mem {β : Type} {field : SnapshotEntry → List β} (hfield : field {} = [])
    {s : Snapshot} {name : String} {x : β} (h : x ∈ field (s.entry name)) : name ∈ s.types.keys := by
  by_contra hname
  rw [entry_of_notMem_keys hname, hfield] at h
  exact List.not_mem_nil h

theorem mem_facts {s : Snapshot} {f : Fact} :
    f ∈ s.facts ↔ ∃ name ∈ s.types.keys, f = .references name (s.entry name).references ∨
      ∃ a ∈ (s.entry name).annotations, f = .annotated name a := by
  simp only [facts, List.mem_flatMap, Prod.exists, NameMap.mem_toList_iff, List.mem_cons,
    List.mem_map, eq_comm (a := f)]
  constructor
  · rintro ⟨name, e, he, hf⟩
    have hname : name ∈ s.types.keys := NameMap.mem_keys_iff.2 (by rw [he]; rfl)
    obtain rfl : e = s.entry name := Option.some.inj (he.symm.trans (find?_eq_entry hname))
    exact ⟨name, hname, hf⟩
  · rintro ⟨name, hname, hf⟩
    exact ⟨name, _, find?_eq_entry hname, hf⟩

theorem mem_names_facts {s : Snapshot} {name : String} :
    name ∈ s.facts.flatMap Fact.names ↔ s.Mentions name := by
  rw [List.mem_flatMap]
  constructor
  · rintro ⟨f, hf, hmem⟩
    obtain ⟨source, hsource, rfl | ⟨a, -, rfl⟩⟩ := mem_facts.1 hf
    · rcases List.mem_cons.1 hmem with rfl | hmem
      · exact Or.inl hsource
      · exact Or.inr ⟨source, hmem⟩
    · rw [List.mem_singleton.1 hmem]
      exact Or.inl hsource
  · rintro (hname | ⟨source, hmem⟩)
    · exact ⟨_, mem_facts.2 ⟨name, hname, Or.inl rfl⟩, List.mem_cons_self⟩
    · have hsource : source ∈ s.types.keys := mem_keys_of_mem rfl hmem
      exact ⟨_, mem_facts.2 ⟨source, hsource, Or.inl rfl⟩, List.mem_cons_of_mem _ hmem⟩

theorem mem_pairs_facts {s : Snapshot} {source target : String} :
    (source, target) ∈ s.facts.flatMap Fact.pairs ↔ target ∈ (s.entry source).references := by
  rw [List.mem_flatMap]
  constructor
  · rintro ⟨f, hf, hmem⟩
    obtain ⟨name, -, rfl | ⟨a, -, rfl⟩⟩ := mem_facts.1 hf
    · obtain ⟨t, ht, heq⟩ := List.mem_map.1 hmem
      cases heq
      exact ht
    · cases hmem
  · intro hmem
    have hsource : source ∈ s.types.keys := mem_keys_of_mem rfl hmem
    exact ⟨_, mem_facts.2 ⟨source, hsource, Or.inl rfl⟩, List.mem_map_of_mem hmem⟩

theorem mem_annotations_facts {s : Snapshot} {type name : String} :
    (type, name) ∈ s.facts.flatMap Fact.annotations ↔ name ∈ (s.entry type).annotations := by
  rw [List.mem_flatMap]
  constructor
  · rintro ⟨f, hf, hmem⟩
    obtain ⟨owner, -, rfl | ⟨a, ha, rfl⟩⟩ := mem_facts.1 hf
    · cases hmem
    · cases List.mem_singleton.1 hmem
      exact ha
  · intro hmem
    have htype : type ∈ s.types.keys := mem_keys_of_mem rfl hmem
    exact ⟨_, mem_facts.2 ⟨type, htype, Or.inr ⟨name, hmem, rfl⟩⟩, List.mem_singleton_self _⟩

/-- Snapshots are equal that have entries for the same types and say the same about each. -/
theorem eq_of_entry {s t : Snapshot} (hconvention : s.convention = t.convention)
    (hkeys : ∀ name, name ∈ s.types.keys ↔ name ∈ t.types.keys)
    (hentry : ∀ name, s.entry name = t.entry name) : s = t := by
  have htypes : s.types = t.types := by
    ext1 name
    by_cases hname : name ∈ s.types.keys
    · rw [find?_eq_entry hname, find?_eq_entry ((hkeys name).1 hname), hentry]
    · have hname' := hname
      rw [hkeys] at hname'
      rw [NameMap.mem_keys_iff, Option.not_isSome_iff_eq_none] at hname hname'
      rw [hname, hname']
  cases s
  cases t
  cases hconvention
  cases htypes
  rfl

/-- The type graph of a snapshot stands for what the snapshot says. -/
theorem represents_toGraphOn (G : Type) [GraphStore G] [LawfulGraphStore G] (s : Snapshot) :
    (s.toGraphOn G).Represents (s.facts.flatMap Fact.names).toFinset (s.facts.flatMap Fact.pairs)
      (s.facts.flatMap Fact.annotations) :=
  TypeGraphOn.represents_ofFacts s.convention s.facts

/-! ### Describing a type graph -/

/-- The targets of the references from a type, in the order of the references. -/
def targets (references : List (String × String)) (source : String) : List String :=
  (references.filter (·.1 == source)).map (·.2)

theorem mem_targets {references : List (String × String)} {source target : String} :
    target ∈ targets references source ↔ (source, target) ∈ references := by
  simp [targets]

theorem nodup_targets {references : List (String × String)} (h : references.Nodup)
    (source : String) : (targets references source).Nodup := by
  refine List.Nodup.map_on (fun x hx y hy hxy => ?_) (h.filter _)
  simp only [List.mem_filter, beq_iff_eq] at hx hy
  exact Prod.ext (hx.2.trans hy.2.symm) hxy

theorem find?_blank (names : NameSet) (name : String) :
    (blank names).find? name = if name ∈ names then some {} else none :=
  NameMap.find?_ofList names.toList (fun _ => ({} : SnapshotEntry)) name

/-- Each reference joins the entry of its source, and no other. -/
theorem find?_addReferences (references : List (String × String)) (types : NameMap SnapshotEntry)
    (name : String) :
    (addReferences references types).find? name = (types.find? name).map fun e =>
      { e with references := e.references ++ targets references name } := by
  induction references generalizing types with
  | nil => simp [addReferences, targets]
  | cons reference rest ih =>
    show (addReferences rest _).find? name = _
    rw [ih, NameMap.find?_modify]
    by_cases h : reference.1 = name
    · rw [if_pos h, Option.map_map]
      simp [targets, h, Function.comp_def, SnapshotEntry.addReference]
    · rw [if_neg h]
      simp [targets, h]

/-- The annotations of a type join its entry, and no other. -/
theorem find?_addAnnotations (annotations : List (String × NameSet))
    (types : NameMap SnapshotEntry) (name : String) :
    (addAnnotations annotations types).find? name = (types.find? name).map fun e =>
      e.addAnnotations ((annotations.filter (·.1 == name)).flatMap (·.2.toList)) := by
  induction annotations generalizing types with
  | nil => simp [addAnnotations, SnapshotEntry.addAnnotations]
  | cons first rest ih =>
    show (addAnnotations rest _).find? name = _
    rw [ih, NameMap.find?_modify]
    by_cases h : first.1 = name
    · rw [if_pos h, Option.map_map]
      simp [h, Function.comp_def, SnapshotEntry.addAnnotations]
    · rw [if_neg h]
      simp [h]

end Snapshot

/-- A table has one row for a name, or none. -/
theorem filter_toList_eq {β : Type} (table : Std.TreeMap String β) (name : String) :
    table.toList.filter (·.1 == name) = (table[name]?.map (name, ·)).toList := by
  have hrow : ∀ row : String × β, row ∈ table.toList ↔ table[row.1]? = some row.2 :=
    fun row => Std.TreeMap.mem_toList_iff_getElem?_eq_some
  cases hname : table[name]? with
  | none =>
    refine List.filter_eq_nil_iff.2 fun row hmem heq => ?_
    rw [hrow, beq_iff_eq.1 heq, hname] at hmem
    cases hmem
  | some value =>
    have hkeys : table.toList.Pairwise fun a b => a.1 ≠ b.1 :=
      table.distinct_keys_toList.imp fun {a b} hab heq =>
        hab (by rw [heq]; exact Std.ReflCmp.compare_self)
    obtain ⟨before, after, hsplit⟩ := List.append_of_mem ((hrow (name, value)).2 hname)
    rw [hsplit, List.pairwise_append, List.pairwise_cons] at hkeys
    have hbefore : before.filter (·.1 == name) = [] :=
      List.filter_eq_nil_iff.2 fun row hmem heq =>
        hkeys.2.2 row hmem (name, value) List.mem_cons_self (beq_iff_eq.1 heq)
    have hafter : after.filter (·.1 == name) = [] :=
      List.filter_eq_nil_iff.2 fun row hmem heq => hkeys.2.1.1 row hmem (beq_iff_eq.1 heq).symm
    rw [hsplit, List.filter_append, hbefore, List.filter_cons_of_pos (by simp), hafter]
    rfl

/-- A list without repetitions is strictly increasing once it is sorted. -/
theorem increasing_mergeSort {l : List String} (h : l.Nodup) : l.mergeSort.Pairwise (· < ·) := by
  have hle : l.mergeSort.Pairwise fun a b => decide (a ≤ b) = true := by
    refine List.pairwise_mergeSort (fun a b c hab hbc => ?_) (fun a b => ?_) l
    · exact decide_eq_true (String.le_trans (of_decide_eq_true hab) (of_decide_eq_true hbc))
    · simpa only [Bool.or_eq_true, decide_eq_true_eq] using String.le_total a b
  have hne : l.mergeSort.Nodup := (List.mergeSort_perm l _).nodup_iff.2 h
  refine (hle.and hne).imp fun {a b} hab => String.not_le.1 fun hba => ?_
  exact hab.2 (String.le_antisymm (of_decide_eq_true hab.1) hba)

namespace TypeGraphOn

theorem flatMap_filter_annotations {G : Type} (g : TypeGraphOn G) (name : String) :
    (g.annotations.toList.filter (·.1 == name)).flatMap (·.2.toList) =
      (g.annotationsOf name).toList := by
  rw [filter_toList_eq, annotationsOf]
  cases g.annotations[name]? with
  | none => rfl
  | some row => simp

namespace Represents

variable {G : Type} [GraphStore G] [LawfulGraphStore G] {g : TypeGraphOn G} {names : Finset String}
  {pairs annotations : List (String × String)}

/-- The references from a type, sorted, are what the graph answers: none is there twice. -/
theorem mergeSort_targets (h : g.Represents names pairs annotations) (name : String) :
    (Snapshot.targets g.references name).mergeSort = (g.referencedTypes name).toList := by
  refine NameSet.increasing_eq_of_mem_iff ?_ (g.referencedTypes name).sorted fun t => ?_
  · exact increasing_mergeSort (Snapshot.nodup_targets h.nodup_references name)
  · rw [List.mem_mergeSort, Snapshot.mem_targets, h.references_eq, List.mem_eraseDups,
      ← h.mem_referencedTypes, NameSet.mem_def]

/-- The description of a graph lists for each known type just what the graph answers. -/
theorem find?_ofGraph (h : g.Represents names pairs annotations) (name : String) :
    (Snapshot.ofGraph g).types.find? name =
      if name ∈ g.allTypes then
        some
          { references := (g.referencedTypes name).toList
            annotations := (g.annotationsOf name).toList }
      else none := by
  rw [Snapshot.ofGraph, NameMap.find?_map, Snapshot.find?_addAnnotations,
    Snapshot.find?_addReferences, Snapshot.find?_blank, flatMap_filter_annotations]
  split
  · simp [SnapshotEntry.sortReferences, SnapshotEntry.addAnnotations, h.mergeSort_targets]
  · rfl

/-- An unknown type has no entry, and nothing is known of it. -/
theorem entry_ofGraph (h : g.Represents names pairs annotations) (name : String) :
    (Snapshot.ofGraph g).entry name =
      { references := (g.referencedTypes name).toList
        annotations := (g.annotationsOf name).toList } := by
  rw [Snapshot.entry, h.find?_ofGraph]
  split
  · rfl
  · next hname =>
    rw [h.mem_allTypes] at hname
    rw [h.referencedTypes_eq_empty hname, h.annotationsOf_eq_empty hname]
    rfl

theorem mem_keys_ofGraph (h : g.Represents names pairs annotations) (name : String) :
    name ∈ (Snapshot.ofGraph g).types.keys ↔ name ∈ names := by
  rw [NameMap.mem_keys_iff, h.find?_ofGraph, ← h.mem_allTypes]
  split
  · next hname => simp [hname]
  · next hname => simp [hname]

theorem mentions_ofGraph (h : g.Represents names pairs annotations) (name : String) :
    (Snapshot.ofGraph g).Mentions name ↔ name ∈ names := by
  unfold Snapshot.Mentions
  rw [h.mem_keys_ofGraph]
  refine or_iff_left_of_imp ?_
  rintro ⟨source, hmem⟩
  rw [h.entry_ofGraph, ← NameSet.mem_def, h.mem_referencedTypes] at hmem
  exact (h.mem_names_of_mem_pairs hmem).2

/-- **Describing a graph and building it again** gives a graph with the same answers. -/
theorem sameAnswers_recaptured (h : g.Represents names pairs annotations) :
    ((Snapshot.ofGraph g).toGraphOn G).SameAnswers g := by
  refine (Snapshot.represents_toGraphOn G (.ofGraph g)).sameAnswers h ?_ (fun n => ?_)
    (fun s t => ?_) (fun n a => ?_)
  · exact convention_ofFacts G _ _
  · rw [List.mem_toFinset, Snapshot.mem_names_facts, h.mentions_ofGraph]
  · rw [Snapshot.mem_pairs_facts, h.entry_ofGraph, ← NameSet.mem_def, h.mem_referencedTypes]
  · rw [Snapshot.mem_annotations_facts, h.entry_ofGraph, ← NameSet.mem_def, h.mem_annotationsOf]

/-- Graphs have one description just when they give the same answers. -/
theorem ofGraph_eq_iff (h : g.Represents names pairs annotations) {g' : TypeGraphOn G}
    {names' : Finset String} {pairs' annotations' : List (String × String)}
    (h' : g'.Represents names' pairs' annotations') :
    Snapshot.ofGraph g = Snapshot.ofGraph g' ↔ g.SameAnswers g' := by
  constructor
  · intro heq
    have hentry : ∀ name, (Snapshot.ofGraph g).entry name = (Snapshot.ofGraph g').entry name :=
      fun name => by rw [heq]
    simp only [h.entry_ofGraph, h'.entry_ofGraph, SnapshotEntry.mk.injEq] at hentry
    refine h.sameAnswers h' (congrArg Snapshot.convention heq) (fun n => ?_) (fun s t => ?_)
      (fun n a => ?_)
    · rw [← h.mem_keys_ofGraph, heq, h'.mem_keys_ofGraph]
    · rw [← h.mem_referencedTypes, NameSet.mem_def, (hentry s).1, ← NameSet.mem_def,
        h'.mem_referencedTypes]
    · rw [← h.mem_annotationsOf, NameSet.mem_def, (hentry n).2, ← NameSet.mem_def,
        h'.mem_annotationsOf]
  · intro hsame
    refine Snapshot.eq_of_entry hsame.convention (fun name => ?_) fun name => ?_
    · rw [h.mem_keys_ofGraph, h'.mem_keys_ofGraph, ← h.mem_allTypes, ← h'.mem_allTypes,
        hsame.allTypes]
    · rw [h.entry_ofGraph, h'.entry_ofGraph, hsame.referencedTypes, hsame.annotationsOf]

end Represents

end TypeGraphOn

/-! ### Normal forms -/

namespace Snapshot

/-- What a snapshot becomes on the way to a type graph and back. -/
def recaptured (G : Type) [GraphStore G] (s : Snapshot) : Snapshot :=
  ofGraph (s.toGraphOn G)

/-- The first list has the members of the second in increasing order, each once. -/
def ListsInOrder (l m : List String) : Prop :=
  l.Pairwise (· < ·) ∧ ∀ x, x ∈ l ↔ x ∈ m

/-- The first snapshot says what the second says, in order, and has an entry for every type that the
second has an entry for or refers to. -/
structure IsNormalForm (n s : Snapshot) : Prop where
  convention : n.convention = s.convention
  mem_keys (name : String) : name ∈ n.types.keys ↔ s.Mentions name
  references (name : String) : ListsInOrder (n.entry name).references (s.entry name).references
  annotations (name : String) : ListsInOrder (n.entry name).annotations (s.entry name).annotations

theorem ListsInOrder.eq {l l' m : List String} (h : ListsInOrder l m) (h' : ListsInOrder l' m) :
    l = l' :=
  NameSet.increasing_eq_of_mem_iff h.1 h'.1 fun x => (h.2 x).trans (h'.2 x).symm

/-- A snapshot has one normal form. -/
theorem IsNormalForm.eq {n n' s : Snapshot} (h : n.IsNormalForm s) (h' : n'.IsNormalForm s) :
    n = n' := by
  refine eq_of_entry (h.convention.trans h'.convention.symm) (fun name => ?_) fun name => ?_
  · rw [h.mem_keys, h'.mem_keys]
  · have hreferences := (h.references name).eq (h'.references name)
    have hannotations := (h.annotations name).eq (h'.annotations name)
    cases hn : n.entry name
    cases hn' : n'.entry name
    rw [hn, hn'] at hreferences hannotations
    exact congrArg₂ SnapshotEntry.mk hreferences hannotations

variable (G : Type) [GraphStore G] [LawfulGraphStore G]

theorem isNormalForm_recaptured (s : Snapshot) : (s.recaptured G).IsNormalForm s := by
  have h := s.represents_toGraphOn G
  refine ⟨TypeGraphOn.convention_ofFacts G _ _, fun name => ?_, fun name => ?_, fun name => ?_⟩
  · rw [recaptured, h.mem_keys_ofGraph, List.mem_toFinset, mem_names_facts]
  · rw [recaptured, h.entry_ofGraph]
    refine ⟨NameSet.sorted _, fun x => ?_⟩
    rw [← NameSet.mem_def, h.mem_referencedTypes, mem_pairs_facts]
  · rw [recaptured, h.entry_ofGraph]
    refine ⟨NameSet.sorted _, fun x => ?_⟩
    rw [← NameSet.mem_def, h.mem_annotationsOf, mem_annotations_facts]

/-- **Nothing is lost** between snapshots and type graphs. A graph of any facts that is described and
built again gives the same answers. A snapshot that is built and described again becomes its normal
form; a second time changes nothing, and the normal forms of two snapshots are the same exactly when
their graphs give the same answers. -/
theorem recaptured_keeps :
    (∀ (convention : Convention) (facts : List Fact),
      let g : TypeGraphOn G := .ofFacts convention facts
      ((ofGraph g).toGraphOn G).SameAnswers g) ∧
    (∀ n s : Snapshot, n = s.recaptured G ↔ n.IsNormalForm s) ∧
    (∀ s : Snapshot, (s.recaptured G).recaptured G = s.recaptured G) ∧
    ∀ s t : Snapshot, s.recaptured G = t.recaptured G ↔
      (s.toGraphOn G).SameAnswers (t.toGraphOn G) := by
  refine ⟨fun convention facts => ?_, fun n s => ⟨?_, fun hn => ?_⟩, fun s => ?_, fun s t => ?_⟩
  · exact (TypeGraphOn.represents_ofFacts convention facts).sameAnswers_recaptured
  · rintro rfl
    exact s.isNormalForm_recaptured G
  · exact hn.eq (s.isNormalForm_recaptured G)
  · have hagain := represents_toGraphOn G (s.recaptured G)
    exact (hagain.ofGraph_eq_iff (s.represents_toGraphOn G)).2
      (s.represents_toGraphOn G).sameAnswers_recaptured
  · exact (s.represents_toGraphOn G).ofGraph_eq_iff (t.represents_toGraphOn G)

/-- Repeated and unsorted lists, and a target without an entry, in the graph that is in use. -/
theorem recaptured_keeps_arena :
    let s : Snapshot :=
      { types := .ofList
          [("p.B", { references := ["p.C", "p.A", "p.C"], annotations := ["Z", "A", "Z"] })] }
    let n := s.recaptured Arena
    (n.entry "p.B").references = ["p.A", "p.C"] ∧ (n.entry "p.B").annotations = ["A", "Z"] ∧
      "p.C" ∈ n.types.keys ∧ n.recaptured Arena = n := by
  intro s n
  obtain ⟨-, hnormal, htwice, -⟩ := recaptured_keeps Arena
  have hn : n.IsNormalForm s := (hnormal n s).1 rfl
  have hreferences : ListsInOrder ["p.A", "p.C"] (s.entry "p.B").references :=
    ⟨by decide, by simp [s, entry, NameMap.ofList, NameMap.find?_insert, or_comm]⟩
  have hannotations : ListsInOrder ["A", "Z"] (s.entry "p.B").annotations :=
    ⟨by decide, by simp [s, entry, NameMap.ofList, NameMap.find?_insert, or_comm]⟩
  have htarget : "p.C" ∈ (s.entry "p.B").references := (hreferences.2 "p.C").1 (by decide)
  exact ⟨(hn.references "p.B").eq hreferences, (hn.annotations "p.B").eq hannotations,
    (hn.mem_keys "p.C").2 (Or.inr ⟨"p.B", htarget⟩), htwice s⟩

end Snapshot

end ComponentSupport
