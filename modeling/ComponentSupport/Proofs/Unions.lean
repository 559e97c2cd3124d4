import ComponentSupport.Proofs.Reading

/-!
# Unions of strategies

There are two places where strategies are asked one after the other and their sets joined: an analyzer
does so with its own strategies, and a composite with its children. The main theorem,
`Analyzer.find_is_union`, says that the two are one operation. It says too what may be changed about
the children of a composite that lies anywhere in a tree: a composite among them may give way to its
own children, which changes no answer; and they may be put in another order, which changes at most the
failure that is met first.

A change at one place is `ChildrenChanged`, for any relation between the children before and after.
What it does to the answer of the whole tree follows from what it does at its place, if the answers are
compared in a way that every computation from them keeps (`Answers.Congruence`): the tree above the
place only computes from the answer there (`ChildrenChanged.find`).
-/

namespace ComponentSupport

namespace Strategy

/-! ### Lists of strategies -/

theorem findAll_append (v : ComponentView) (strategies more : List Strategy) :
    findAll v (strategies ++ more) = do
      let types ← findAll v strategies
      let others ← findAll v more
      return types ∪ others := by
  induction strategies with
  | nil =>
    show findAll v more = _
    rw [findAll, ok_bind]
    cases findAll v more with
    | error e => rfl
    | ok types => exact congrArg Except.ok types.empty_union.symm
  | cons s rest ih =>
    rw [List.cons_append, findAll, findAll, ih]
    cases s.find v with
    | error e => rfl
    | ok types =>
      cases findAll v rest with
      | error e => rfl
      | ok others =>
        cases findAll v more with
        | error e => rfl
        | ok more => exact congrArg Except.ok (types.union_assoc others more).symm

/-- The sets of a list of strategies are joined from the first strategy to the last, and the first
failure ends this. -/
theorem foldlM_find (v : ComponentView) (strategies : List Strategy) (found : NameSet) :
    strategies.foldlM (fun types s => (s.find v).map (types ∪ ·)) found =
      (findAll v strategies).map (found ∪ ·) := by
  induction strategies generalizing found with
  | nil => exact congrArg Except.ok found.union_empty.symm
  | cons s rest ih =>
    rw [List.foldlM_cons, findAll]
    cases s.find v with
    | error e => rfl
    | ok types =>
      show rest.foldlM _ (found ∪ types) = _
      rw [ih]
      cases findAll v rest with
      | error e => rfl
      | ok others => exact congrArg Except.ok (found.union_assoc types others)

/-- A list of strategies succeeds when each of them does, and finds what any of them finds. -/
theorem findAll_eq_ok_iff {v : ComponentView} {strategies : List Strategy} {found : NameSet} :
    findAll v strategies = .ok found ↔
      (∀ s ∈ strategies, ∃ types, s.find v = .ok types) ∧
      ∀ t, t ∈ found ↔ ∃ s ∈ strategies, ∃ types, s.find v = .ok types ∧ t ∈ types := by
  induction strategies generalizing found with
  | nil =>
    constructor
    · intro h
      obtain rfl := Except.ok.inj h
      simp
    · rintro ⟨-, hfound⟩
      exact congrArg Except.ok (NameSet.ext fun t => by simp [hfound])
  | cons s rest ih =>
    simp only [findAll, bind_eq_ok_iff, pure_eq_ok_iff, List.forall_mem_cons,
      List.exists_mem_cons_iff]
    constructor
    · rintro ⟨types, hs, others, hothers, rfl⟩
      obtain ⟨hrest, hmem⟩ := ih.1 hothers
      refine ⟨⟨⟨types, hs⟩, hrest⟩, fun t => ?_⟩
      simp only [NameSet.mem_union, hmem, hs, Except.ok.injEq, exists_eq_left']
    · rintro ⟨⟨⟨types, hs⟩, hrest⟩, hfound⟩
      cases hothers : findAll v rest with
      | error e =>
        obtain ⟨s', hs', he⟩ := exists_of_findAll_eq_error hothers
        obtain ⟨types', htypes'⟩ := hrest s' hs'
        cases he.symm.trans htypes'
      | ok others =>
        refine ⟨types, hs, others, rfl, NameSet.ext fun t => ?_⟩
        simp only [NameSet.mem_union, hfound, (ih.1 hothers).2, hs, Except.ok.injEq,
          exists_eq_left']

theorem findAll_perm {strategies reordered : List Strategy} (h : strategies.Perm reordered)
    (v : ComponentView) (found : NameSet) :
    findAll v strategies = .ok found ↔ findAll v reordered = .ok found := by
  rw [findAll_eq_ok_iff, findAll_eq_ok_iff]
  simp only [h.mem_iff]

/-! ### Composites put together from their children -/

theorem foldl_addChild (children strategies : List Strategy) (graph : Option TypeGraph) :
    strategies.foldl addChild (.composite children graph) =
      .composite (children ++ strategies.map (adopt graph)) graph := by
  induction strategies generalizing children with
  | nil => simp
  | cons s rest ih =>
    rw [List.foldl_cons, addChild, ih, List.map_cons, List.append_assoc, List.singleton_append]

/-! ### Changing children somewhere in a tree -/

/-- The second tree is the first with the children of one composite changed, to some that are related
to them. -/
inductive ChildrenChanged (R : List Strategy → List Strategy → Prop) : Strategy → Strategy → Prop where
  /-- The composite is the root. -/
  | root {children children' : List Strategy} (graph : Option TypeGraph) :
      R children children' → ChildrenChanged R (.composite children graph) (.composite children' graph)
  /-- It lies below a filter. -/
  | matching {inner inner' : Strategy} (matcher : Matcher) :
      ChildrenChanged R inner inner' →
      ChildrenChanged R (.matching inner matcher) (.matching inner' matcher)
  /-- It lies below two lists. -/
  | explicit {inner inner' : Strategy} (included excluded : NameSet) (graph : Option TypeGraph) :
      ChildrenChanged R inner inner' →
      ChildrenChanged R (.explicit (some inner) included excluded graph)
        (.explicit (some inner') included excluded graph)
  /-- It lies below a child of another composite. -/
  | child {child child' : Strategy} (before after : List Strategy) (graph : Option TypeGraph) :
      ChildrenChanged R child child' →
      ChildrenChanged R (.composite (before ++ child :: after) graph)
        (.composite (before ++ child' :: after) graph)

/-- A composite among the children gives way to its own children. -/
inductive Spliced : List Strategy → List Strategy → Prop where
  | mk (before children after : List Strategy) (graph : Option TypeGraph) :
      Spliced (before ++ .composite children graph :: after) (before ++ children ++ after)

end Strategy

/-- A way to compare answers that is kept by what is computed from them. -/
structure Answers.Congruence
    (rel : Except AnalysisError NameSet → Except AnalysisError NameSet → Prop) : Prop where
  refl : ∀ x, rel x x
  /-- What comes after the answers may be anything. -/
  bind : ∀ {x y} (f : NameSet → Except AnalysisError NameSet), rel x y → rel (x >>= f) (y >>= f)
  /-- And so may what comes before. -/
  bind_right : ∀ x {f g : NameSet → Except AnalysisError NameSet},
    (∀ types, rel (f types) (g types)) → rel (x >>= f) (x >>= g)

theorem Answers.congruence_eq : Answers.Congruence (· = ·) where
  refl _ := rfl
  bind _ h := h ▸ rfl
  bind_right _ _ _ h := congrArg _ (funext h)

/-- Answers with the same set, if they have one. -/
theorem Answers.congruence_ok :
    Answers.Congruence fun x y => ∀ found, x = .ok found ↔ y = .ok found where
  refl _ _ := Iff.rfl
  bind f h found := by
    rw [bind_eq_ok_iff, bind_eq_ok_iff]
    exact exists_congr fun types => and_congr_left fun _ => h types
  bind_right x f g h found := by
    rw [bind_eq_ok_iff, bind_eq_ok_iff]
    exact exists_congr fun types => and_congr_right fun _ => h types found

namespace Strategy

variable {R : List Strategy → List Strategy → Prop} {s s' : Strategy}

theorem ChildrenChanged.graph?_eq (h : ChildrenChanged R s s') : s.graph? = s'.graph? := by
  induction h with
  | root graph _ => rfl
  | matching matcher _ ih => exact ih
  | explicit included excluded graph _ _ => rfl
  | child before after graph _ _ => rfl

/-- Answers of trees compare as the answers at the place of the change do. -/
theorem ChildrenChanged.find {rel : Except AnalysisError NameSet → Except AnalysisError NameSet → Prop}
    (hrel : Answers.Congruence rel) {v : ComponentView} (h : ChildrenChanged R s s')
    (hR : ∀ children children' g, (composite children (some g)).PartOf s → R children children' →
      rel (findAll v children) (findAll v children')) :
    rel (s.find v) (s'.find v) := by
  induction h with
  | @root children children' graph hchanged =>
    cases graph with
    | none => exact hrel.refl _
    | some g =>
      rw [find_composite, find_composite]
      exact hR _ _ g .self hchanged
  | @matching inner inner' matcher hinner ih =>
    have hanswer := ih fun _ _ g hpart => hR _ _ g (.matching matcher hpart)
    rw [Strategy.find, Strategy.find, ← hinner.graph?_eq]
    cases inner.graph? with
    | none => exact hrel.refl _
    | some g => exact hrel.bind _ hanswer
  | @explicit inner inner' included excluded graph _ ih =>
    have hanswer := ih fun _ _ g hpart => hR _ _ g (.explicit included excluded graph hpart)
    cases graph with
    | none => exact hrel.refl _
    | some g => exact hrel.bind _ hanswer
  | @child child child' before after graph _ ih =>
    have hanswer := ih fun _ _ g hpart => hR _ _ g (.composite graph (by simp) hpart)
    cases graph with
    | none => exact hrel.refl _
    | some g =>
      rw [find_composite, find_composite, findAll_append, findAll_append, findAll, findAll]
      exact hrel.bind_right _ fun types => hrel.bind _ (hrel.bind _ hanswer)

/-- A composite with the same graph finds among the children what its children find in its place. -/
theorem findAll_spliced (v : ComponentView) (before children after : List Strategy) (g : TypeGraph) :
    findAll v (before ++ .composite children (some g) :: after) =
      findAll v (before ++ children ++ after) := by
  have htail : findAll v (.composite children (some g) :: after) = findAll v (children ++ after) := by
    rw [findAll, find_composite, findAll_append]
  rw [List.append_assoc, findAll_append, findAll_append v before, htail]

/-- Where the nodes of a tree have one graph, no answer tells whether a composite among the children of
another gave way to its own. -/
theorem ChildrenChanged.find_spliced (hs : s.Coherent) (h : ChildrenChanged Spliced s s')
    (v : ComponentView) : s.find v = s'.find v := by
  refine h.find Answers.congruence_eq fun children children' g hpart hchanged => ?_
  obtain ⟨before, inner, after, graph⟩ := hchanged
  have hgraph : graph = some g :=
    hs _ hpart g rfl (.composite inner graph) (.composite _ (by simp) .self)
  rw [hgraph, findAll_spliced]

/-- The order of children is of no account for a set that is found. -/
theorem ChildrenChanged.find_reordered (h : ChildrenChanged List.Perm s s') (v : ComponentView) :
    ∀ found, s.find v = .ok found ↔ s'.find v = .ok found :=
  h.find Answers.congruence_ok fun _ _ _ _ hperm => findAll_perm hperm v

/-- A change of children that can be made before a graph is given can be made after. -/
theorem ChildrenChanged.bind (h : ChildrenChanged R s s') (g : TypeGraph)
    (hR : ∀ children children', R children children' →
      R (children.map (Strategy.bind g)) (children'.map (Strategy.bind g))) :
    ChildrenChanged R (s.bind g) (s'.bind g) := by
  induction h with
  | root graph hchanged =>
    rw [Strategy.bind, Strategy.bind, bindAll_eq_map, bindAll_eq_map]
    exact .root _ (hR _ _ hchanged)
  | matching matcher _ ih => exact .matching matcher ih
  | explicit included excluded graph _ ih => exact .explicit included excluded _ ih
  | child before after graph _ ih =>
    rw [Strategy.bind, Strategy.bind, bindAll_eq_map, bindAll_eq_map]
    simp only [List.map_append, List.map_cons]
    exact .child _ _ _ ih

theorem Spliced.map_bind (g : TypeGraph) {children children' : List Strategy}
    (h : Spliced children children') :
    Spliced (children.map (Strategy.bind g)) (children'.map (Strategy.bind g)) := by
  obtain ⟨before, inner, after, graph⟩ := h
  simp only [List.map_append, List.map_cons, Strategy.bind, bindAll_eq_map]
  exact .mk _ _ _ _

end Strategy

namespace Analyzer

/-- **Unions**: an analyzer answers what the composite of the same strategies answers, whether the
composite got the graph after its children or before them, and this is what the strategies find, joined
one after the other up to the first failure. In any tree that was given a graph, a composite among the
children of another can give way to its own children without a change to any answer, and the children
of a composite can be reordered without a change to any set that is found; and so can, and with the
same effect, the strategies of an analyzer. -/
theorem find_is_union (g : TypeGraph) (settings : AnalyzerSettings) (strategies : List Strategy)
    (v : ComponentView) :
    let a := ofStrategies g settings strategies
    let empty : Strategy := .composite [] none
    a.find v = ((strategies.foldl Strategy.addChild empty).bind g).find v ∧
    a.find v = (strategies.foldl Strategy.addChild (empty.bind g)).find v ∧
    a.find v = (strategies.map (Strategy.bind g)).foldlM
      (fun types s => (s.find v).map (types ∪ ·)) ∅ ∧
    (∀ s s', Strategy.ChildrenChanged Strategy.Spliced s s' →
      (s.bind g).find v = (s'.bind g).find v) ∧
    (∀ s s', Strategy.ChildrenChanged List.Perm s s' →
      ∀ types, (s.bind g).find v = .ok types ↔ (s'.bind g).find v = .ok types) ∧
    (∀ strategies', Strategy.Spliced strategies strategies' →
      a.find v = (ofStrategies g settings strategies').find v) ∧
    (∀ strategies', strategies.Perm strategies' →
      ∀ types, a.find v = .ok types ↔ (ofStrategies g settings strategies').find v = .ok types) := by
  intro a empty
  have hcomposite : ∀ strategies, (ofStrategies g settings strategies).find v =
      ((Strategy.composite strategies none).bind g).find v := by
    intro strategies
    rw [Analyzer.find, strategies_ofStrategies, Strategy.bind, Strategy.bindAll_eq_map,
      Strategy.find_composite]
  have hspliced : ∀ s s', Strategy.ChildrenChanged Strategy.Spliced s s' →
      (s.bind g).find v = (s'.bind g).find v := fun s s' h =>
    (h.bind g fun _ _ => Strategy.Spliced.map_bind g).find_spliced (.bind g s) v
  have hreordered : ∀ s s', Strategy.ChildrenChanged List.Perm s s' →
      ∀ types, (s.bind g).find v = .ok types ↔ (s'.bind g).find v = .ok types := fun s s' h =>
    (h.bind g fun _ _ hperm => hperm.map _).find_reordered v
  refine ⟨?_, ?_, ?_, hspliced, hreordered, fun strategies' h => ?_, fun strategies' h => ?_⟩
  · rw [Strategy.foldl_addChild, List.nil_append]
    show _ = ((Strategy.composite (strategies.map id) none).bind g).find v
    rw [List.map_id]
    exact hcomposite strategies
  · show _ = (strategies.foldl Strategy.addChild (.composite [] (some g))).find v
    rw [Strategy.foldl_addChild]
    exact (hcomposite strategies).trans
      (by rw [Strategy.bind, Strategy.bindAll_eq_map]; rfl)
  · rw [Strategy.foldlM_find, Analyzer.find, strategies_ofStrategies]
    cases Strategy.findAll v (strategies.map (Strategy.bind g)) with
    | error e => rfl
    | ok types => exact congrArg Except.ok types.empty_union.symm
  · rw [hcomposite, hcomposite]
    exact hspliced _ _ (.root none h)
  · rw [hcomposite, hcomposite]
    exact hreordered _ _ (.root none h)

end Analyzer

end ComponentSupport
