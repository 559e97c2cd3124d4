import ComponentSupport.Proofs.Construction

/-!
# Models that can be built again

A model that comes from a document was not made by construction steps, and nothing but its validation
stands between it and its users. This module compares the two: it lists the steps that would have
made a model, system by system, container by container and component by component, in the order of
their declaration (`Model.edits`), and carries them out on the empty model (`Model.rebuild`).

Validation looks at blank names and into each container. It does not compare the names of systems, nor
those of the containers of a system, which a construction step does:
`Model.not_forall_valid_rebuilds` is a model that validates and cannot be built again. The main theorem
`Model.rebuild_of_validate` says that there is no other difference. A model that validates is given
back by its own steps, and every element of it is found by its name, if the names are distinct at each
level; and otherwise the first name that is given twice is refused.

Systems in a model and containers in a system are added in the same way, one at the end of those that
are there, so one induction serves both (`foldlM_named`).
-/

namespace ComponentSupport

/-! ### Lists of named elements -/

/-- An element is found by its name if no other has it. -/
theorem find?_name_of_nodup {α : Type} {name : α → String} {l : List α} (h : (l.map name).Nodup)
    {x : α} (hx : x ∈ l) : l.find? (fun y => name y == name x) = some x := by
  obtain ⟨before, after, rfl⟩ := List.append_of_mem hx
  rw [List.map_append, List.map_cons, List.nodup_append] at h
  have hbefore : ∀ y ∈ before, ¬ (name y == name x) = true := fun y hy => by
    simpa using h.2.2 (name y) (List.mem_map_of_mem hy) (name x) List.mem_cons_self
  rw [List.find?_append, List.find?_eq_none.2 hbefore, Option.none_or, List.find?_cons_of_pos]
  exact beq_self_eq_true (name x)

/-- Steps that add the elements of a list one after the other, each under a name of its own. If a step
succeeds on a good element with a new name, and otherwise fails in a certain way, then the whole list is
added if all elements are good and no name occurs twice, and otherwise it fails in that way. -/
theorem foldlM_named {α σ ε : Type} (name : α → String) (state : List α → σ)
    (step : σ → α → Except ε σ) (Good : α → Prop) (Refused : ε → Prop)
    (done rest : List α) (hdone : (done.map name).Nodup)
    (hadd : ∀ done, ∀ x ∈ rest, (∀ y ∈ done, name y ≠ name x) → Good x →
      step (state done) x = .ok (state (done ++ [x])))
    (hrefuse : ∀ done, ∀ x ∈ rest, ((∃ y ∈ done, name y = name x) ∨ ¬ Good x) →
      ∃ e, step (state done) x = .error e ∧ Refused e) :
    (((done ++ rest).map name).Nodup ∧ (∀ x ∈ rest, Good x) ∧
      rest.foldlM step (state done) = .ok (state (done ++ rest))) ∨
    (¬ (((done ++ rest).map name).Nodup ∧ ∀ x ∈ rest, Good x) ∧
      ∃ e, rest.foldlM step (state done) = .error e ∧ Refused e) := by
  induction rest generalizing done with
  | nil =>
    rw [List.append_nil]
    exact Or.inl ⟨hdone, fun x hx => absurd hx List.not_mem_nil, rfl⟩
  | cons x rest ih =>
    rw [List.foldlM_cons]
    by_cases hx : (∀ y ∈ done, name y ≠ name x) ∧ Good x
    · have hnew : ((done ++ [x]).map name).Nodup := by
        rw [List.map_append, List.map_singleton, List.nodup_append]
        refine ⟨hdone, List.nodup_singleton _, fun n hn n' hn' => ?_⟩
        obtain ⟨y, hy, rfl⟩ := List.mem_map.1 hn
        rw [List.mem_singleton.1 hn']
        exact hx.1 y hy
      have hrest := ih (done ++ [x]) hnew (fun done y hy => hadd done y (List.mem_cons_of_mem x hy))
        (fun done y hy => hrefuse done y (List.mem_cons_of_mem x hy))
      rw [List.append_assoc, List.singleton_append] at hrest
      rw [hadd done x List.mem_cons_self hx.1 hx.2, List.forall_mem_cons, and_iff_right hx.2]
      exact hrest
    · obtain ⟨e, he, hrefused⟩ := hrefuse done x List.mem_cons_self (by
        rw [not_and_or] at hx
        refine hx.imp_left fun hx => ?_
        simpa using hx)
      refine Or.inr ⟨fun ⟨hnames, hgood⟩ => hx ⟨fun y hy => ?_, hgood x List.mem_cons_self⟩, e, ?_,
        hrefused⟩
      · rw [List.map_append, List.map_cons, List.nodup_append] at hnames
        exact hnames.2.2 _ (List.mem_map_of_mem hy) _ List.mem_cons_self
      · rw [he]
        rfl

/-- A step at the last element of a list, if no other passes the test. -/
theorem stepAt_last {α : Type} (element : ElementKind) {p : α → Bool}
    (step : α → α × Except EditError Unit) {before : List α} {x : α}
    (hbefore : ∀ y ∈ before, p y = false) (hx : p x = true) :
    stepAt element p step (before ++ [x]) = (before ++ [(step x).1], (step x).2) := by
  have hfind : (before ++ [x]).find? p = some x := by
    rw [List.find?_append, List.find?_eq_none.2 fun y hy => by simp [hbefore y hy],
      Option.none_or, List.find?_cons_of_pos hx]
  unfold stepAt
  rw [hfind]
  exact Prod.ext (updateFirst_append_cons hbefore hx _ []) rfl

/-! ### The steps that make a model -/

/-- The steps that make a container in the named system. -/
def Container.edits (system : String) (c : Container) : List Edit :=
  .addContainer system c.name c.technology c.description ::
    c.components.map (.insertComponent system c.name)

/-- The steps that make a system. -/
def SoftwareSystem.edits (s : SoftwareSystem) : List Edit :=
  .addSoftwareSystem s.name s.description :: s.containers.flatMap (Container.edits s.name)

namespace Model

/-- The steps that make a model, in the order of declaration. -/
def edits (m : Model) : List Edit :=
  m.softwareSystems.flatMap SoftwareSystem.edits

/-- Carries out edits in order, up to the first that fails. -/
def carryOut (m : Model) (edits : List Edit) : Except EditError Model :=
  edits.foldlM apply m

/-- The model that the steps of a model make from the empty one. -/
def rebuild (m : Model) : Except EditError Model :=
  carryOut {} m.edits

/-- No two systems have one name, and no two containers of one system. -/
def NamesDistinct (m : Model) : Prop :=
  (m.softwareSystems.map (·.name)).Nodup ∧
    ∀ s ∈ m.softwareSystems, (s.containers.map (·.name)).Nodup

theorem carryOut_cons (m : Model) (edit : Edit) (rest : List Edit) :
    m.carryOut (edit :: rest) = m.apply edit >>= fun m => m.carryOut rest :=
  List.foldlM_cons

theorem carryOut_flatMap {α : Type} (m : Model) (f : α → List Edit) (l : List α) :
    m.carryOut (l.flatMap f) = l.foldlM (fun m x => m.carryOut (f x)) m := by
  induction l generalizing m with
  | nil => rfl
  | cons x rest ih =>
    rw [List.flatMap_cons, List.foldlM_cons, carryOut, List.foldlM_append]
    exact congrArg (m.carryOut (f x) >>= ·) (funext ih)

/-! ### Adding one element -/

/-- A failure about a name that is given twice. -/
def RefusesName (e : EditError) : Prop :=
  ∃ element name parent, e = .refused (.duplicateName element name parent)

theorem addSoftwareSystem_new {m : Model} {name : String} (description : String)
    (hblank : Text.isBlank name = false) (hnew : ∀ s ∈ m.softwareSystems, s.name ≠ name) :
    m.addSoftwareSystem name description =
      ({ m with softwareSystems := m.softwareSystems ++ [{ name, description }] }, .ok ()) := by
  have hnone : m.softwareSystem? name = none :=
    List.find?_eq_none.2 fun s hs => by simpa using hnew s hs
  unfold addSoftwareSystem
  rw [hblank, hnone]
  rfl

theorem addSoftwareSystem_taken {m : Model} {name : String} (description : String)
    (hblank : Text.isBlank name = false) (htaken : ∃ s ∈ m.softwareSystems, s.name = name) :
    m.addSoftwareSystem name description =
      (m, .error (.duplicateName .softwareSystem name "model")) := by
  have hsome : (m.softwareSystem? name).isSome = true := by
    rw [softwareSystem?, List.find?_isSome]
    simpa using htaken
  unfold addSoftwareSystem
  rw [hblank, hsome]
  rfl

end Model

namespace SoftwareSystem

theorem addContainer_new {s : SoftwareSystem} {name : String} (technology description : String)
    (hblank : Text.isBlank name = false) (hnew : ∀ c ∈ s.containers, c.name ≠ name) :
    s.addContainer name technology description =
      ({ s with containers := s.containers ++ [{ name, technology, description }] }, .ok ()) := by
  have hnone : s.container? name = none :=
    List.find?_eq_none.2 fun c hc => by simpa using hnew c hc
  unfold addContainer
  rw [hblank, hnone]
  rfl

theorem addContainer_taken {s : SoftwareSystem} {name : String} (technology description : String)
    (hblank : Text.isBlank name = false) (htaken : ∃ c ∈ s.containers, c.name = name) :
    s.addContainer name technology description =
      (s, .error (.duplicateName .container name s.name)) := by
  have hsome : (s.container? name).isSome = true := by
    rw [container?, List.find?_isSome]
    simpa using htaken
  unfold addContainer
  rw [hblank, hsome]
  rfl

end SoftwareSystem

/-- A component of a container that keeps its rule fits beside the components before it. -/
theorem Container.Valid.insert_prefix {c : Container} {before after : List Component} {k : Component}
    (h : c.Valid) (hc : c.components = before ++ k :: after) :
    ({ c with components := before } : Container).insert k =
      ({ c with components := before ++ [k] }, .ok ()) := by
  obtain ⟨-, hsingle, hpairs⟩ := c.valid_iff_pairwise.1 h
  rw [hc] at hsingle hpairs
  have hcheck : ({ c with components := before } : Container).checkNew k = .ok () := by
    rw [checkNew_eq_ok_iff_compatible]
    refine ⟨(hsingle k (List.mem_append_right before List.mem_cons_self)).1, fun other ho => ?_⟩
    exact (List.pairwise_append.1 hpairs).2.2 other ho k List.mem_cons_self
  unfold Container.insert
  rw [hcheck]

namespace Model

/-! ### Working on the last system and its last container -/

/-- The models whose last system is at work: the systems before it, and the system. -/
def endingIn (before : List SoftwareSystem) (s : SoftwareSystem) : Model :=
  { softwareSystems := before ++ [s] }

section LastSystem

variable {before : List SoftwareSystem} {s : SoftwareSystem}
  (hbefore : ∀ t ∈ before, t.name ≠ s.name)

include hbefore

theorem changeSystem_endingIn (containers : List Container)
    (step : SoftwareSystem → SoftwareSystem × Except EditError Unit) :
    (endingIn before { s with containers }).changeSystem s.name step =
      (endingIn before (step { s with containers }).1, (step { s with containers }).2) := by
  have hlast := stepAt_last .softwareSystem (p := fun t => t.name == s.name) step
    (x := { s with containers }) (fun t ht => by simpa using hbefore t ht) (beq_self_eq_true s.name)
  unfold changeSystem endingIn
  rw [hlast]

theorem changeContainer_endingIn {done : List Container} {c : Container}
    (hdone : ∀ d ∈ done, d.name ≠ c.name) (components : List Component)
    (step : Container → Container × Except EditError Unit) :
    (endingIn before { s with containers := done ++ [{ c with components }] }).changeContainer
        s.name c.name step =
      (endingIn before { s with containers := done ++ [(step { c with components }).1] },
        (step { c with components }).2) := by
  have hlast := stepAt_last .container (p := fun d => d.name == c.name) step
    (x := { c with components }) (fun d hd => by simpa using hdone d hd) (beq_self_eq_true c.name)
  unfold changeContainer
  rw [changeSystem_endingIn hbefore]
  unfold SoftwareSystem.changeContainer
  simp only [hlast]

/-- The components of a container that keeps its rule go in one after the other. -/
theorem carryOut_components {done : List Container} {c : Container} (hvalid : c.Valid)
    (hdone : ∀ d ∈ done, d.name ≠ c.name) {components rest : List Component}
    (hc : c.components = components ++ rest) :
    (endingIn before { s with containers := done ++ [{ c with components }] }).carryOut
        (rest.map (.insertComponent s.name c.name)) =
      .ok (endingIn before { s with containers := done ++ [c] }) := by
  induction rest generalizing components with
  | nil =>
    rw [List.append_nil] at hc
    rw [← hc]
    rfl
  | cons k rest ih =>
    have hinsert := hvalid.insert_prefix hc
    rw [List.map_cons, carryOut_cons, apply, perform, changeContainer_endingIn hbefore hdone,
      refusable, hinsert]
    refine ih ?_
    rw [hc, List.append_assoc, List.singleton_append]

/-- A container that keeps its rule is made under a new name. -/
theorem carryOut_container {done : List Container} {c : Container} (hvalid : c.Valid)
    (hnew : ∀ d ∈ done, d.name ≠ c.name) :
    (endingIn before { s with containers := done }).carryOut (c.edits s.name) =
      .ok (endingIn before { s with containers := done ++ [c] }) := by
  have hadd : ({ s with containers := done } : SoftwareSystem).addContainer c.name c.technology
      c.description =
      ({ s with containers := done ++ [{ c with components := [] }] }, .ok ()) :=
    SoftwareSystem.addContainer_new c.technology c.description hvalid.name hnew
  rw [Container.edits, carryOut_cons, apply, perform, changeSystem_endingIn hbefore, refusable, hadd]
  exact carryOut_components hbefore hvalid hnew (List.nil_append _).symm

/-- And it is refused under one that is taken. -/
theorem carryOut_container_taken {done : List Container} {c : Container} (hvalid : c.Valid)
    (htaken : ∃ d ∈ done, d.name = c.name) :
    (endingIn before { s with containers := done }).carryOut (c.edits s.name) =
      .error (.refused (.duplicateName .container c.name s.name)) := by
  have hadd := SoftwareSystem.addContainer_taken (s := { s with containers := done }) c.technology
    c.description hvalid.name htaken
  rw [Container.edits, carryOut_cons, apply, perform, changeSystem_endingIn hbefore, refusable, hadd]
  rfl

/-- A system is made under a new name if its containers have names of their own. -/
theorem carryOut_system (hblank : Text.isBlank s.name = false)
    (hvalid : ∀ c ∈ s.containers, c.Valid) :
    ((s.containers.map (·.name)).Nodup ∧
      ({ softwareSystems := before } : Model).carryOut s.edits = .ok (endingIn before s)) ∨
    (¬ (s.containers.map (·.name)).Nodup ∧
      ∃ e, ({ softwareSystems := before } : Model).carryOut s.edits = .error e ∧ RefusesName e) := by
  have hadd : ({ softwareSystems := before } : Model).addSoftwareSystem s.name s.description =
      (endingIn before { s with containers := [] }, .ok ()) :=
    addSoftwareSystem_new s.description hblank hbefore
  have hrun : ({ softwareSystems := before } : Model).carryOut s.edits =
      s.containers.foldlM (fun m c => m.carryOut (c.edits s.name))
        (endingIn before { s with containers := [] }) := by
    rw [SoftwareSystem.edits, carryOut_cons, apply, perform, refusable, hadd]
    exact carryOut_flatMap _ _ _
  have hcontainers := foldlM_named Container.name
    (fun done => endingIn before { s with containers := done })
    (fun m c => m.carryOut (c.edits s.name)) (fun _ => True) RefusesName []
    s.containers List.nodup_nil (fun done c hc hnew _ => carryOut_container hbefore (hvalid c hc) hnew)
    (fun done c hc htaken => ⟨_, carryOut_container_taken hbefore (hvalid c hc)
      (htaken.resolve_right (not_not_intro trivial)), _, _, _, rfl⟩)
  rw [hrun]
  simpa using hcontainers

end LastSystem

/-- A system is refused under a name that is taken. -/
theorem carryOut_system_taken {before : List SoftwareSystem} {s : SoftwareSystem}
    (hblank : Text.isBlank s.name = false) (htaken : ∃ t ∈ before, t.name = s.name) :
    ({ softwareSystems := before } : Model).carryOut s.edits =
      .error (.refused (.duplicateName .softwareSystem s.name "model")) := by
  have hadd := addSoftwareSystem_taken (m := { softwareSystems := before }) s.description hblank
    htaken
  rw [SoftwareSystem.edits, carryOut_cons, apply, perform, refusable, hadd]
  rfl

/-! ### Validation and construction -/

/-- A model that validates is given back by its own steps if its names are distinct, and otherwise one
of its names is refused. -/
theorem rebuild_cases {m : Model} (h : m.validate = .ok ()) :
    (m.NamesDistinct ∧ m.rebuild = .ok m) ∨
    (¬ m.NamesDistinct ∧ ∃ e, m.rebuild = .error e ∧ RefusesName e) := by
  have hsystems := (validate_eq_ok_iff m).1 h
  have hrun : m.rebuild = m.softwareSystems.foldlM (fun m s => m.carryOut s.edits) {} :=
    carryOut_flatMap _ _ _
  rw [hrun]
  refine (foldlM_named SoftwareSystem.name (fun done => ({ softwareSystems := done } : Model))
    (fun m s => m.carryOut s.edits) (fun s => (s.containers.map (·.name)).Nodup) RefusesName
    [] m.softwareSystems List.nodup_nil ?_ ?_).imp (fun hok => ⟨⟨hok.1, hok.2.1⟩, hok.2.2⟩) id
  · intro done s hs hnew hgood
    rcases carryOut_system hnew (hsystems s hs).1 (hsystems s hs).2 with ⟨-, hok⟩ | ⟨hbad, -⟩
    · exact hok
    · exact absurd hgood hbad
  · intro done s hs hbad
    by_cases htaken : ∃ t ∈ done, t.name = s.name
    · exact ⟨_, carryOut_system_taken (hsystems s hs).1 htaken, _, _, _, rfl⟩
    · have hnew : ∀ t ∈ done, t.name ≠ s.name := fun t ht heq => htaken ⟨t, ht, heq⟩
      rcases carryOut_system hnew (hsystems s hs).1 (hsystems s hs).2 with ⟨hgood, -⟩ | ⟨-, hfail⟩
      · exact absurd hgood (hbad.resolve_left htaken)
      · exact hfail

/-- **Building again**: a model that validates and whose names are distinct is given back by its own
steps, each of which succeeds, and look-ups by name reach every element of it. If a name is given
twice, its steps fail at such a name. -/
theorem rebuild_of_validate (m : Model) (h : m.validate = .ok ()) :
    (m.NamesDistinct → m.rebuild = .ok m ∧
      ∀ s ∈ m.softwareSystems, m.softwareSystem? s.name = some s ∧
        ∀ c ∈ s.containers, s.container? c.name = some c ∧
          ∀ k ∈ c.components, c.component? k.name = some k) ∧
    (¬ m.NamesDistinct → ∃ element name parent,
      m.rebuild = .error (.refused (.duplicateName element name parent))) := by
  have hsystems := (validate_eq_ok_iff m).1 h
  rcases rebuild_cases h with ⟨hnames, hok⟩ | ⟨hnames, e, he, element, name, parent, rfl⟩
  · refine ⟨fun _ => ⟨hok, fun s hs => ?_⟩, fun hbad => absurd hnames hbad⟩
    refine ⟨find?_name_of_nodup hnames.1 hs, fun c hc => ?_⟩
    refine ⟨find?_name_of_nodup (hnames.2 s hs) hc, fun k hk => ?_⟩
    exact find?_name_of_nodup ((hsystems s hs).2 c hc).names hk
  · exact ⟨fun hgood => absurd hgood hnames, fun _ => ⟨element, name, parent, he⟩⟩

/-- A model with two systems of two containers each. -/
theorem rebuild_of_validate_two :
    let api (type : String) : Container :=
      { name := "Api", technology := "Go", components := [
        { name := "A", primaryType := type, supportingTypes := .ofList ["p.H"] },
        { name := "B", primaryType := "p.B", description := "second" }] }
    let m : Model := { softwareSystems := [
      { name := "Bank", containers := [api "p.A", { name := "Web" }] },
      { name := "Shop", description := "again", containers := [api "p.C", { name := "Job" }] }] }
    m.validate = .ok () ∧ m.NamesDistinct ∧ m.rebuild = .ok m := by
  intro api m
  have hvalid : m.validate = .ok () := by decide
  have hnames : m.NamesDistinct := by
    unfold NamesDistinct
    decide
  exact ⟨hvalid, hnames, ((rebuild_of_validate m hvalid).1 hnames).1⟩

/-- Validation accepts what construction refuses: two systems of one name, and two containers of one
name in a system. -/
theorem not_forall_valid_rebuilds :
    ¬ ∀ m : Model, m.validate = .ok () →
      (∃ built, m.rebuild = .ok built) ∧ (m.softwareSystems.map (·.name)).Nodup ∧
      ∀ s ∈ m.softwareSystems, (s.containers.map (·.name)).Nodup := by
  intro hall
  let m : Model := { softwareSystems := [{ name := "Bank" }, { name := "Bank" }] }
  have hvalid : m.validate = .ok () := by decide
  have hrebuild : m.rebuild =
      .error (.refused (.duplicateName .softwareSystem "Bank" "model")) := by decide
  obtain ⟨⟨built, hbuilt⟩, -⟩ := hall m hvalid
  rw [hrebuild] at hbuilt
  cases hbuilt

end Model

end ComponentSupport
