import ComponentSupport.TypeGraph
import Mathlib.Data.Finset.Card

/-!
# What a type graph knows of the facts it was built from

A type graph is built fact by fact, and each fact may name types and references that are known
already. This module says what the facts mean on their own, without the graph, and proves that the
graph answers just that.

`Fact.names`, `Fact.pairs` and `Fact.annotations` are the plain relations that one fact records:
the names it mentions, the pairs of types that refer, and the pairs of a type and its annotation. A
type graph keeps them in a directed graph, an index and a table, which have to agree.
`TypeGraphOn.Represents` is that agreement, and the relations that the three stand for together.
Looking up a node, joining two nodes and writing an annotation keep it, each adding what it is about;
so a step adds the relations of its fact (`Represents.record`), a run those of all of its facts
(`Represents.recordAll`), and the answers of the graph can be read off (`answers_ofFacts`).

Of the directed graph only the laws of `LawfulGraphStore` are used.
-/

namespace ComponentSupport

/-! ### What facts mean -/

namespace Fact

/-- The names that a fact mentions. -/
def names : Fact → List String
  | .type name => [name]
  | .reference source target => [source, target]
  | .references source targets => source :: targets
  | .annotated owner _ => [owner]

/-- The references that a fact states, each from the first type to the second. -/
def pairs : Fact → List (String × String)
  | .type _ => []
  | .reference source target => [(source, target)]
  | .references source targets => targets.map (source, ·)
  | .annotated _ _ => []

/-- The annotations that a fact states, each behind the type that carries it. -/
def annotations : Fact → List (String × String)
  | .type _ => []
  | .reference _ _ => []
  | .references _ _ => []
  | .annotated owner name => [(owner, name)]

/-- The fact says that the first type refers to the second. -/
def Refers : Fact → String → String → Prop
  | .reference source target, s, t => s = source ∧ t = target
  | .references source targets, s, t => s = source ∧ t ∈ targets
  | .type _, _, _ => False
  | .annotated _ _, _, _ => False

theorem mem_pairs_iff {f : Fact} {s t : String} : (s, t) ∈ f.pairs ↔ f.Refers s t := by
  cases f with
  | references source targets =>
    simp only [pairs, Refers, List.mem_map, Prod.mk.injEq]
    constructor
    · rintro ⟨target, hmem, rfl, rfl⟩
      exact ⟨rfl, hmem⟩
    · rintro ⟨rfl, hmem⟩
      exact ⟨t, hmem, rfl, rfl⟩
  | _ => simp [pairs, Refers]

end Fact

/-- One of the facts says that the first type refers to the second. -/
def Recorded (facts : List Fact) (s t : String) : Prop := ∃ f ∈ facts, f.Refers s t

theorem mem_flatMap_pairs_iff {facts : List Fact} {s t : String} :
    (s, t) ∈ facts.flatMap Fact.pairs ↔ Recorded facts s t := by
  simp only [List.mem_flatMap, Fact.mem_pairs_iff, Recorded]

theorem eraseDups_concat_of_mem {α : Type} [BEq α] [LawfulBEq α] {l : List α} {x : α}
    (h : x ∈ l) : (l ++ [x]).eraseDups = l.eraseDups := by
  rw [List.eraseDups_append]
  simp [List.removeAll, h]

theorem eraseDups_concat_of_notMem {α : Type} [BEq α] [LawfulBEq α] {l : List α} {x : α}
    (h : x ∉ l) : (l ++ [x]).eraseDups = l.eraseDups ++ [x] := by
  rw [List.eraseDups_append]
  simp [List.removeAll, h, List.eraseDups_cons]

theorem nodup_eraseDups {α : Type} [BEq α] [LawfulBEq α] (l : List α) : l.eraseDups.Nodup := by
  induction l using List.reverseRecOn with
  | nil => exact List.nodup_nil
  | append_singleton l x ih =>
    by_cases h : x ∈ l
    · rw [eraseDups_concat_of_mem h]
      exact ih
    · have hx : x ∉ l.eraseDups := fun hmem => h (List.mem_eraseDups.1 hmem)
      rw [eraseDups_concat_of_notMem h, ← List.concat_eq_append]
      exact ih.concat hx

theorem getElem?_insert {β : Type} (m : Std.TreeMap String β) (key : String) (value : β)
    (name : String) :
    (m.insert key value)[name]? = if name = key then some value else m[name]? := by
  rw [Std.TreeMap.getElem?_insert]
  by_cases h : name = key
  · rw [if_pos h, if_pos (by rw [h]; exact Std.ReflCmp.compare_self)]
  · rw [if_neg h, if_neg fun hc => h (Std.LawfulEqCmp.eq_of_compare hc).symm]

namespace TypeGraphOn

open GraphStore LawfulGraphStore

variable {G : Type} [GraphStore G]

/-! ### Structures in step -/

/-- The directed graph, the index and the annotations of a type graph agree with each other, and
stand together for the names that are known, the pairs of types that refer, in the order of
recording, and the pairs of a type and its annotation. -/
structure Represents (g : TypeGraphOn G) (names : Finset String) (pairs : List (String × String))
    (annotations : List (String × String)) : Prop where
  /-- The index and the names at the nodes are inverse to each other. -/
  index_iff (name : String) (n : Nat) : g.index[name]? = some n ↔ name? g.graph n = some name
  mem_index (name : String) : name ∈ g.index ↔ name ∈ names
  nodeCount_eq : nodeCount g.graph = names.card
  /-- Edges join nodes. -/
  ends_isSome : ∀ e ∈ edges g.graph, (g.ends? e).isSome
  /-- There is one edge for each pair, in the order in which the pairs came first. -/
  references_eq : g.references = pairs.eraseDups
  mem_annotationsOf (type name : String) : name ∈ g.annotationsOf type ↔ (type, name) ∈ annotations
  /-- Annotated types are known. -/
  annotated_known {type : String} : type ∈ g.annotations → type ∈ g.index

theorem ends?_eq_some_iff {g : TypeGraphOn G} {a b : Nat} {s t : String} :
    g.ends? (a, b) = some (s, t) ↔ name? g.graph a = some s ∧ name? g.graph b = some t := by
  unfold ends?
  split
  · next ha hb => simp [ha, hb]
  · next h =>
    refine iff_of_false nofun ?_
    rintro ⟨ha, hb⟩
    exact h s t ha hb

namespace Represents

variable {g : TypeGraphOn G} {names : Finset String} {pairs annotations : List (String × String)}

theorem mem_names_iff (h : g.Represents names pairs annotations) (name : String) :
    name ∈ names ↔ g.index[name]?.isSome := by
  rw [← h.mem_index, Std.TreeMap.mem_iff_isSome_getElem?]

/-- Two types refer if an edge joins the nodes that hold their names. -/
theorem mem_pairs_iff (h : g.Represents names pairs annotations) (s t : String) :
    (s, t) ∈ pairs ↔
      ∃ a b, (a, b) ∈ edges g.graph ∧ name? g.graph a = some s ∧ name? g.graph b = some t := by
  rw [← List.mem_eraseDups, ← h.references_eq, TypeGraphOn.references, List.mem_filterMap]
  simp only [Prod.exists, ends?_eq_some_iff]

/-- Types that refer, and those that are referred to, are known. -/
theorem mem_names_of_mem_pairs (h : g.Represents names pairs annotations) {s t : String}
    (hst : (s, t) ∈ pairs) : s ∈ names ∧ t ∈ names := by
  obtain ⟨a, b, -, ha, hb⟩ := (h.mem_pairs_iff s t).1 hst
  rw [← h.index_iff] at ha hb
  rw [h.mem_names_iff, h.mem_names_iff, ha, hb]
  exact ⟨rfl, rfl⟩

/-- The index finds the ends of the one edge that two types can have. -/
theorem mem_edges_iff (h : g.Represents names pairs annotations) {s t : String} {a b : Nat}
    (ha : g.index[s]? = some a) (hb : g.index[t]? = some b) :
    (a, b) ∈ edges g.graph ↔ (s, t) ∈ pairs := by
  rw [h.mem_pairs_iff]
  constructor
  · intro hmem
    exact ⟨a, b, hmem, (h.index_iff s a).1 ha, (h.index_iff t b).1 hb⟩
  · rintro ⟨a', b', hmem, ha', hb'⟩
    rw [← h.index_iff, ha, Option.some.injEq] at ha'
    rw [← h.index_iff, hb, Option.some.injEq] at hb'
    rwa [ha', hb']

/-! ### Questions -/

theorem mem_allTypes (h : g.Represents names pairs annotations) (name : String) :
    name ∈ g.allTypes ↔ name ∈ names := by
  rw [allTypes, NameSet.mem_ofList, Std.TreeMap.mem_keys, h.mem_index]

theorem contains_iff (h : g.Represents names pairs annotations) (name : String) :
    g.contains name = true ↔ name ∈ names := by
  rw [contains, Std.TreeMap.contains_iff_mem, h.mem_index]

theorem mem_referencedTypes [LawfulGraphStore G] (h : g.Represents names pairs annotations)
    (s t : String) : t ∈ g.referencedTypes s ↔ (s, t) ∈ pairs := by
  rw [h.mem_pairs_iff]
  simp only [← h.index_iff s]
  unfold referencedTypes
  cases g.index[s]? with
  | none => simp
  | some n =>
    simp only [NameSet.mem_ofList, List.mem_filterMap, mem_successors, Option.some.injEq]
    constructor
    · rintro ⟨b, hmem, hb⟩
      exact ⟨n, b, hmem, rfl, hb⟩
    · rintro ⟨a, b, hmem, rfl, hb⟩
      exact ⟨b, hmem, hb⟩

theorem referencedTypes_eq_empty (h : g.Represents names pairs annotations) {name : String}
    (hname : name ∉ names) : g.referencedTypes name = ∅ := by
  rw [h.mem_names_iff, Option.not_isSome_iff_eq_none] at hname
  simp only [referencedTypes, hname]

theorem annotationsOf_eq_empty (h : g.Represents names pairs annotations) {name : String}
    (hname : name ∉ names) : g.annotationsOf name = ∅ := by
  rw [← h.mem_index] at hname
  rw [annotationsOf, Std.TreeMap.getElem?_eq_none (hname ∘ h.annotated_known)]
  rfl

theorem referenceCount_eq [LawfulGraphStore G] (h : g.Represents names pairs annotations) :
    g.referenceCount = g.references.length := by
  rw [referenceCount, edgeCount_eq, TypeGraphOn.references,
    List.filterMap_length_eq_length.2 h.ends_isSome]

end Represents

/-! ### One step -/

theorem node_of_known {g : TypeGraphOn G} {name : String} {n : Nat}
    (h : g.index[name]? = some n) : g.node name = (n, g) := by
  simp only [node, h]

theorem node_of_unknown {g : TypeGraphOn G} {name : String} (h : g.index[name]? = none) :
    g.node name = g.newNode name := by
  simp only [node, h]

theorem index_newNode (g : TypeGraphOn G) (name other : String) :
    (g.newNode name).2.index[other]? =
      if other = name then some (g.newNode name).1 else g.index[other]? :=
  getElem?_insert ..

theorem index_node (g : TypeGraphOn G) (name : String) :
    (g.node name).2.index[name]? = some (g.node name).1 := by
  cases h : g.index[name]? with
  | some n => rw [node_of_known h, h]
  | none => rw [node_of_unknown h, index_newNode, if_pos rfl]

/-- Types keep their nodes. -/
theorem index_node_of_some {g : TypeGraphOn G} {other : String} {n : Nat}
    (h : g.index[other]? = some n) (name : String) :
    (g.node name).2.index[other]? = some n := by
  cases hname : g.index[name]? with
  | some m => rw [node_of_known hname, h]
  | none =>
    rw [node_of_unknown hname, index_newNode, if_neg, h]
    rintro rfl
    cases hname.symm.trans h

/-- Writing an annotation of a known type adds it. -/
theorem Represents.annotate {g : TypeGraphOn G} {names : Finset String}
    {pairs annotations : List (String × String)} (h : g.Represents names pairs annotations)
    {type : String} (hknown : type ∈ names) (name : String) :
    (g.annotate type name).Represents names pairs (annotations ++ [(type, name)]) := by
  refine
    { index_iff := h.index_iff
      mem_index := h.mem_index
      nodeCount_eq := h.nodeCount_eq
      ends_isSome := h.ends_isSome
      references_eq := h.references_eq
      mem_annotationsOf x y := ?_
      annotated_known {x} hx := ?_ }
  · rw [List.mem_append, ← h.mem_annotationsOf]
    show y ∈ (Std.TreeMap.insert ..)[x]?.getD ∅ ↔ _
    rw [getElem?_insert]
    split
    · next hx => simp [hx, annotationsOf, or_comm]
    · next hx => simp [hx, annotationsOf]
  · rcases Std.TreeMap.mem_insert.1 hx with hcmp | hx
    · rw [← Std.LawfulEqCmp.eq_of_compare hcmp]
      exact (h.mem_index type).2 hknown
    · exact h.annotated_known hx

variable [LawfulGraphStore G] {g : TypeGraphOn G} {names : Finset String}
  {pairs annotations : List (String × String)}

/-- Nodes keep their names. -/
theorem name?_newNode_of_some {n : Nat} {other : String} (h : name? g.graph n = some other)
    (name : String) : name? (g.newNode name).2.graph n = some other := by
  refine (name?_addNode g.graph name n).trans ((if_neg ?_).trans h)
  rintro rfl
  cases (name?_fresh g.graph name).symm.trans h

/-- Edges keep their ends. -/
theorem ends?_newNode {e : Nat × Nat} (h : (g.ends? e).isSome) (name : String) :
    (g.newNode name).2.ends? e = g.ends? e := by
  obtain ⟨⟨s, t⟩, hends⟩ := Option.isSome_iff_exists.1 h
  obtain ⟨ha, hb⟩ := ends?_eq_some_iff.1 hends
  rw [hends, ends?_eq_some_iff]
  exact ⟨name?_newNode_of_some ha name, name?_newNode_of_some hb name⟩

namespace Represents

/-- A new node and its entry in the index fit, for neither the number nor the name was there. -/
theorem index_newNode_iff (h : g.Represents names pairs annotations) {name : String}
    (hnew : name ∉ names) (x : String) (n : Nat) :
    (g.newNode name).2.index[x]? = some n ↔ name? (g.newNode name).2.graph n = some x := by
  have hnumber : ∀ y : String, g.index[y]? ≠ some (g.newNode name).1 := by
    intro y hy
    rw [h.index_iff] at hy
    cases (name?_fresh g.graph name).symm.trans hy
  have hname : name? g.graph n ≠ some name := by
    intro hn
    rw [← h.index_iff] at hn
    exact hnew ((h.mem_names_iff name).2 (by rw [hn]; rfl))
  have hadded : name? (g.newNode name).2.graph n =
      if n = (g.newNode name).1 then some name else name? g.graph n :=
    name?_addNode g.graph name n
  rw [index_newNode, hadded]
  by_cases hx : x = name <;> by_cases hn : n = (g.newNode name).1
  · simp [hn, hx]
  · simp [hn, hx, hname, Ne.symm hn]
  · simp [hn, hx, hnumber, Ne.symm hx]
  · simp [hn, hx, h.index_iff]

/-- A new node makes its type known. -/
theorem newNode (h : g.Represents names pairs annotations) {name : String} (hnew : name ∉ names) :
    (g.newNode name).2.Represents (insert name names) pairs annotations := by
  have hedges : edges (g.newNode name).2.graph = edges g.graph := edges_addNode g.graph name
  have hends : ∀ e ∈ edges g.graph, (g.newNode name).2.ends? e = g.ends? e :=
    fun e he => ends?_newNode (h.ends_isSome e he) name
  have hmem : ∀ x, x ∈ (g.newNode name).2.index ↔ x ∈ insert name names := by
    intro x
    rw [Std.TreeMap.mem_iff_isSome_getElem?, index_newNode, Finset.mem_insert, h.mem_names_iff]
    split
    · next hx => simp [hx]
    · next hx => simp [hx]
  refine
    { index_iff := h.index_newNode_iff hnew
      mem_index := hmem
      nodeCount_eq := ?_
      ends_isSome e he := ?_
      references_eq := ?_
      mem_annotationsOf := h.mem_annotationsOf
      annotated_known hx := ?_ }
  · rw [Finset.card_insert_of_notMem hnew, ← h.nodeCount_eq]
    exact nodeCount_addNode g.graph name
  · rw [hedges] at he
    rw [hends e he]
    exact h.ends_isSome e he
  · rw [← h.references_eq, TypeGraphOn.references, hedges]
    exact List.filterMap_congr hends
  · rw [hmem, Finset.mem_insert, ← h.mem_index]
    exact Or.inr (h.annotated_known hx)

/-- Looking up the node of a type makes the type known. -/
theorem node (h : g.Represents names pairs annotations) (name : String) :
    (g.node name).2.Represents (insert name names) pairs annotations := by
  cases hname : g.index[name]? with
  | some n =>
    have hmem : name ∈ names := (h.mem_names_iff name).2 (by rw [hname]; rfl)
    rw [node_of_known hname, Finset.insert_eq_of_mem hmem]
    exact h
  | none =>
    have hnew : name ∉ names := by
      rw [h.mem_names_iff, hname]
      exact Bool.false_ne_true
    rw [node_of_unknown hname]
    exact h.newNode hnew

/-- Joining the nodes of two types records that they refer. -/
theorem link (h : g.Represents names pairs annotations) {s t : String} {a b : Nat}
    (ha : g.index[s]? = some a) (hb : g.index[t]? = some b) :
    (g.link a b).Represents names (pairs ++ [(s, t)]) annotations := by
  have hsa := (h.index_iff s a).1 ha
  have htb := (h.index_iff t b).1 hb
  have hs : (name? g.graph a).isSome := by rw [hsa]; rfl
  have ht : (name? g.graph b).isSome := by rw [htb]; rfl
  have hname : ∀ n, name? (g.link a b).graph n = name? g.graph n := name?_updateEdge hs ht
  have hends : (g.link a b).ends? = g.ends? := by
    funext e
    simp only [ends?, hname]
  have hab : g.ends? (a, b) = some (s, t) := ends?_eq_some_iff.2 ⟨hsa, htb⟩
  have hedges : edges (g.link a b).graph =
      if (s, t) ∈ pairs then edges g.graph else edges g.graph ++ [(a, b)] := by
    refine (edges_updateEdge hs ht).trans ?_
    simp only [h.mem_edges_iff ha hb]
  refine
    { index_iff x n := by rw [hname]; exact h.index_iff x n
      mem_index := h.mem_index
      nodeCount_eq := (nodeCount_updateEdge hs ht).trans h.nodeCount_eq
      ends_isSome e he := ?_
      references_eq := ?_
      mem_annotationsOf := h.mem_annotationsOf
      annotated_known := h.annotated_known }
  · rw [hends]
    rw [hedges] at he
    split at he
    · exact h.ends_isSome e he
    · rcases List.mem_append.1 he with he | he
      · exact h.ends_isSome e he
      · rw [List.mem_singleton.1 he, hab]
        rfl
  · rw [TypeGraphOn.references, hends, hedges]
    split
    · next hmem => rw [eraseDups_concat_of_mem hmem, ← h.references_eq]; rfl
    · next hmem =>
      rw [eraseDups_concat_of_notMem hmem, ← h.references_eq, List.filterMap_append,
        List.filterMap_cons_some hab]
      rfl

/-- Recording a reference adds it, and makes both types known. -/
theorem addReference (h : g.Represents names pairs annotations) (source target : String) :
    (g.addReference source target).Represents (insert target (insert source names))
      (pairs ++ [(source, target)]) annotations :=
  ((h.node source).node target).link (index_node_of_some (index_node g source) target)
    (index_node _ target)

theorem addReferences (h : g.Represents names pairs annotations) (source : String)
    (targets : List String) :
    (g.addReferences source targets).Represents (insert source names ∪ targets.toFinset)
      (pairs ++ targets.map (source, ·)) annotations := by
  have hsource : source ∈ insert source names := Finset.mem_insert_self source names
  replace h := h.node source
  unfold TypeGraphOn.addReferences addType
  generalize (g.node source).2 = g' at h ⊢
  generalize insert source names = names' at hsource h ⊢
  induction targets generalizing g' names' pairs with
  | nil =>
    rw [List.toFinset_nil, Finset.union_empty, List.map_nil, List.append_nil]
    exact h
  | cons target rest ih =>
    -- the source is known from the start, so only the target becomes known
    have hstep := h.addReference source target
    rw [Finset.insert_eq_of_mem hsource] at hstep
    rw [List.foldl_cons, List.map_cons, List.toFinset_cons, Finset.union_insert,
      ← Finset.insert_union, ← List.singleton_append, ← List.append_assoc]
    exact ih _ _ (Finset.mem_insert_of_mem hsource) hstep

theorem addAnnotation (h : g.Represents names pairs annotations) (type name : String) :
    (g.addAnnotation type name).Represents (insert type names) pairs
      (annotations ++ [(type, name)]) :=
  (h.node type).annotate (Finset.mem_insert_self type names) name

/-- A step adds the relations of its fact. -/
theorem record (h : g.Represents names pairs annotations) (f : Fact) :
    (g.record f).Represents (names ∪ f.names.toFinset) (pairs ++ f.pairs)
      (annotations ++ f.annotations) := by
  cases f with
  | type name =>
    simpa [TypeGraphOn.record, addType, Fact.names, Fact.pairs, Fact.annotations,
      Finset.union_comm] using h.node name
  | reference source target =>
    have hstep := h.addReference source target
    rw [Finset.insert_comm] at hstep
    simpa [TypeGraphOn.record, Fact.names, Fact.pairs, Fact.annotations,
      Finset.union_comm names] using hstep
  | references source targets =>
    simpa [TypeGraphOn.record, Fact.names, Fact.pairs, Fact.annotations] using
      h.addReferences source targets
  | annotated type name =>
    simpa [TypeGraphOn.record, Fact.names, Fact.pairs, Fact.annotations, Finset.union_comm] using
      h.addAnnotation type name

/-! ### All steps -/

/-- Steps add the relations of their facts. -/
theorem recordAll (h : g.Represents names pairs annotations) (facts : List Fact) :
    (facts.foldl TypeGraphOn.record g).Represents (names ∪ (facts.flatMap Fact.names).toFinset)
      (pairs ++ facts.flatMap Fact.pairs) (annotations ++ facts.flatMap Fact.annotations) := by
  induction facts generalizing g names pairs annotations with
  | nil => simpa using h
  | cons f rest ih => simpa [Finset.union_assoc] using ih (h.record f)

end Represents

theorem represents_empty (convention : Convention) :
    (empty convention : TypeGraphOn G).Represents ∅ [] [] where
  index_iff name n := by
    refine iff_of_false ?_ ?_
    · rw [empty, Std.TreeMap.getElem?_emptyc]
      nofun
    · rw [empty, name?_empty]
      nofun
  mem_index name := by
    refine iff_of_false ?_ (Finset.notMem_empty name)
    exact Std.TreeMap.not_mem_emptyc
  nodeCount_eq := nodeCount_empty
  ends_isSome e he := by
    rw [empty, edges_empty] at he
    cases he
  references_eq := by
    rw [references, empty, edges_empty]
    rfl
  mem_annotationsOf type name := by
    refine iff_of_false ?_ List.not_mem_nil
    exact NameSet.not_mem_empty name
  annotated_known hmem := (Std.TreeMap.not_mem_emptyc hmem).elim

/-- The graph of a list of facts stands for the relations of all of them. -/
theorem represents_ofFacts (convention : Convention) (facts : List Fact) :
    (ofFacts convention facts : TypeGraphOn G).Represents (facts.flatMap Fact.names).toFinset
      (facts.flatMap Fact.pairs) (facts.flatMap Fact.annotations) := by
  simpa [ofFacts] using (represents_empty convention).recordAll facts

/-- **Questions**, to the graph of any list of facts. It knows the names that the facts mention,
each once; the references and the annotations of a type are those that the facts state, and an
unknown type has none. The list of all references has each pair once, in the order in which the
facts state them first. -/
theorem answers_ofFacts (convention : Convention) (facts : List Fact) :
    let g : TypeGraphOn G := ofFacts convention facts
    let names := facts.flatMap Fact.names
    let pairs := facts.flatMap Fact.pairs
    let annotations := facts.flatMap Fact.annotations
    (∀ n, n ∈ g.allTypes ↔ n ∈ names) ∧
    (∀ n, g.contains n = true ↔ n ∈ names) ∧
    (∀ n t, t ∈ g.referencedTypes n ↔ (n, t) ∈ pairs) ∧
    (∀ n a, a ∈ g.annotationsOf n ↔ (n, a) ∈ annotations) ∧
    (∀ n, n ∉ names → g.referencedTypes n = ∅ ∧ g.annotationsOf n = ∅) ∧
    g.size = names.toFinset.card ∧
    g.references = pairs.eraseDups ∧
    g.referenceCount = g.references.length := by
  intro g names pairs annotations
  have h : g.Represents names.toFinset pairs annotations := represents_ofFacts convention facts
  refine ⟨fun n => ?_, fun n => ?_, h.mem_referencedTypes, h.mem_annotationsOf, fun n hn => ?_,
    h.nodeCount_eq, h.references_eq, h.referenceCount_eq⟩
  · rw [h.mem_allTypes, List.mem_toFinset]
  · rw [h.contains_iff, List.mem_toFinset]
  · rw [← List.mem_toFinset] at hn
    exact ⟨h.referencedTypes_eq_empty hn, h.annotationsOf_eq_empty hn⟩

/-- Repeated, early and circular facts, in the graph that is in use. -/
theorem answers_ofFacts_arena :
    let g := TypeGraph.ofFacts .dot
      [.annotated "p.C" "Repository", .reference "p.B" "p.A", .references "p.A" ["p.A", "p.B"],
        .reference "p.B" "p.A", .type "p.C"]
    g.contains "p.D" = false ∧ g.referencedTypes "p.D" = ∅ ∧
    (∀ t, t ∈ g.referencedTypes "p.A" ↔ t = "p.A" ∨ t = "p.B") ∧
    (∀ a, a ∈ g.annotationsOf "p.C" ↔ a = "Repository") ∧
    g.size = 3 ∧ g.references = [("p.B", "p.A"), ("p.A", "p.A"), ("p.A", "p.B")] ∧
    g.referenceCount = 3 := by
  intro g
  obtain ⟨-, hcontains, hreferenced, hannotations, hunknown, hsize, hreferences, hcount⟩ :=
    answers_ofFacts (G := Arena) .dot
      [.annotated "p.C" "Repository", .reference "p.B" "p.A", .references "p.A" ["p.A", "p.B"],
        .reference "p.B" "p.A", .type "p.C"]
  have hlist : g.references = [("p.B", "p.A"), ("p.A", "p.A"), ("p.A", "p.B")] :=
    hreferences.trans (by decide)
  refine ⟨Bool.eq_false_iff.2 fun h => absurd ((hcontains _).1 h) (by decide),
    (hunknown _ (by decide)).1, fun t => (hreferenced "p.A" t).trans (by simp [Fact.pairs]),
    fun a => (hannotations "p.C" a).trans (by simp [Fact.annotations]), hsize.trans (by decide),
    hlist, hcount.trans (congrArg List.length hlist)⟩

end TypeGraphOn

/-- **References**: the graph of a list of facts refers as the facts record. -/
theorem TypeGraph.mem_referencedTypes_ofFacts (convention : Convention) (facts : List Fact)
    (s t : String) :
    t ∈ (TypeGraph.ofFacts convention facts).referencedTypes s ↔ Recorded facts s t := by
  rw [← mem_flatMap_pairs_iff]
  exact (TypeGraphOn.represents_ofFacts convention facts).mem_referencedTypes s t

end ComponentSupport
