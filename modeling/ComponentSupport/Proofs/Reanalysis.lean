import ComponentSupport.Proofs.Writing

/-!
# Analysing again

An analysis writes into the model that it reads. Here the same analysis is run again on what the first
run left. The views of the components are the same as before (`Container.Alike.allInContainer`), and
so are the answers, and which of them are written. What is left to prove is that the same writes, made
a second time in the same order, change nothing, although components of one name share the place that
their sets are written to.

Two writes to one component do not commute when sets are replaced, and the second alone decides; two
writes to different components do commute, and so do two writes that append. So a write either can be
moved past a later one or is lost by it (`Analyzer.write_swap`), and a write that is repeated right
after itself changes nothing (`Analyzer.write_again`). This is all that it takes for a run of such
steps to leave what a second run finds (`foldl_foldl_of_absorb`). `Analyzer.analyzeModel_again` is the
main theorem.
-/

namespace ComponentSupport

/-! ### Runs of steps that can be repeated -/

section Absorb

variable {σ ι : Type} {step : σ → ι → σ}

/-- A step ahead of a run in which it is taken anyway makes no difference. -/
theorem foldl_step_of_mem (hagain : ∀ s i, step (step s i) i = step s i)
    (hswap : ∀ s i j, step (step s i) j = step (step s j) i ∨ step (step s i) j = step s j)
    {l : List ι} {i : ι} (hi : i ∈ l) (s : σ) : l.foldl step (step s i) = l.foldl step s := by
  induction l generalizing s with
  | nil => cases hi
  | cons j rest ih =>
    rw [List.foldl_cons, List.foldl_cons]
    rcases List.mem_cons.1 hi with rfl | hi
    · rw [hagain]
    · rcases hswap s i j with h | h
      · rw [h, ih hi]
      · rw [h]

/-- A run leaves what the same run, made again, does not change. -/
theorem foldl_foldl_of_absorb (hagain : ∀ s i, step (step s i) i = step s i)
    (hswap : ∀ s i j, step (step s i) j = step (step s j) i ∨ step (step s i) j = step s j)
    (l : List ι) (s : σ) : l.foldl step (l.foldl step s) = l.foldl step s := by
  -- any steps of the run may be taken ahead of it
  have hahead : ∀ m : List ι, (∀ i ∈ m, i ∈ l) → ∀ s, l.foldl step (m.foldl step s) =
      l.foldl step s := by
    intro m hm
    induction m with
    | nil => exact fun _ => rfl
    | cons i rest ih =>
      rw [List.forall_mem_cons] at hm
      intro s
      rw [List.foldl_cons, ih hm.2, foldl_step_of_mem hagain hswap hm.1]
  exact hahead l (fun _ hi => hi) s

end Absorb

/-! ### Two writes to one component -/

/-- When sets are replaced, the last one decides. -/
theorem Component.assign_replace (k : Component) (types : List String) (mode : Assignment)
    (more : List String) : (k.assign types mode).assign more .replace = k.assign more .replace := by
  rw [assign_eq k types mode]
  rfl

/-- When sets are joined, the order does not matter. -/
theorem Component.assign_append_comm (k : Component) (types more : List String) :
    (k.assign types .append).assign more .append = (k.assign more .append).assign types .append := by
  rw [assign_eq (k.assign types .append), assign_eq (k.assign more .append), assign_eq k types,
    assign_eq k more]
  refine congrArg (fun s => { k with supportingTypes := s }) (NameSet.ext fun x => ?_)
  simp only [assign, mem_addSupportingTypes]
  exact or_left_comm

theorem Component.assign_again (k : Component) (types : List String) (mode : Assignment) :
    (k.assign types mode).assign types mode = k.assign types mode := by
  cases mode with
  | replace => exact k.assign_replace types .replace types
  | append =>
    rw [assign_eq (k.assign types .append), assign_eq k]
    refine congrArg (fun s => { k with supportingTypes := s }) (NameSet.ext fun x => ?_)
    simp only [assign, mem_addSupportingTypes]
    exact or_self_left

/-! ### Two writes to one container -/

namespace Container

variable {name other : String} {f g : Component → Component}

theorem update_update (h : ∀ k, (f k).name = k.name) (c : Container) (g : Component → Component) :
    (c.update name f).update name g = c.update name (g ∘ f) := by
  have hlist := updateFirst_updateFirst (p := (·.name == name)) (fun k => by rw [h]) g c.components
  exact congrArg (fun ks => { c with components := ks }) hlist

theorem update_comm (hne : name ≠ other) (hf : ∀ k, (f k).name = k.name)
    (hg : ∀ k, (g k).name = k.name) (c : Container) :
    (c.update name f).update other g = (c.update other g).update name f := by
  have hlist := updateFirst_comm (p := (·.name == name)) (q := (·.name == other))
    (fun k => by rw [hf]) (fun k => by rw [hg])
    (fun k hk => by rw [beq_iff_eq.1 hk]; exact beq_false_of_ne hne) c.components
  exact congrArg (fun ks => { c with components := ks }) hlist

/-- A write either changes the named component or nothing, by whether it is refused. -/
theorem assign_fst (c : Container) (name : String) (types : List String) (mode : Assignment) :
    (c.assign name types mode).1 =
      match (c.assign name types mode).2 with
      | .ok () => c.update name (·.assign types mode)
      | .error _ => c := by
  rcases c.assign_cases name types mode with ⟨-, -, h⟩ | ⟨e, h⟩
  · rw [h]
  · rw [h]

end Container

namespace Analyzer

/-- A write changes the named component of every container alike in one way, or changes none of
them. -/
theorem write_cases (a : Analyzer) (c : Container) (name : String)
    (result : Except AnalysisError NameSet) :
    (∃ types : List String, ∀ d, c.Alike d →
      (a.write d name result).1 = d.update name (·.assign types a.settings.assignment)) ∨
    ∀ d, c.Alike d → (a.write d name result).1 = d := by
  cases result with
  | error e => exact Or.inr fun d _ => rfl
  | ok types =>
    simp only [write_ok]
    cases hc : (c.assign name types.toList a.settings.assignment).2 with
    | ok _ =>
      refine Or.inl ⟨types.toList, fun d hd => ?_⟩
      rw [Container.assign_fst, hd.assign_snd, hc]
    | error e =>
      refine Or.inr fun d hd => ?_
      rw [Container.assign_fst, hd.assign_snd, hc]

theorem write_again (a : Analyzer) (c : Container) (name : String)
    (result : Except AnalysisError NameSet) :
    (a.write (a.write c name result).1 name result).1 = (a.write c name result).1 := by
  have halike := a.write_alike c name result
  rcases a.write_cases c name result with ⟨types, hwrite⟩ | hwrite
  · rw [hwrite _ halike, hwrite c (.refl c),
      Container.update_update fun k => Component.name_assign k types a.settings.assignment]
    congr 1
    funext k
    exact k.assign_again types a.settings.assignment
  · exact hwrite _ halike

/-- A write can be moved past a later one, or is lost by it. -/
theorem write_swap (a : Analyzer) (c : Container) (name other : String)
    (result result' : Except AnalysisError NameSet) :
    (a.write (a.write c name result).1 other result').1 =
        (a.write (a.write c other result').1 name result).1 ∨
      (a.write (a.write c name result).1 other result').1 = (a.write c other result').1 := by
  have halike := a.write_alike c name result
  have halike' := a.write_alike c other result'
  rcases a.write_cases c name result with ⟨types, hwrite⟩ | hwrite
  · rcases a.write_cases c other result' with ⟨types', hwrite'⟩ | hwrite'
    · rw [hwrite _ halike', hwrite' _ halike, hwrite c (.refl c), hwrite' c (.refl c)]
      have hname : ∀ types k, (Component.assign k types a.settings.assignment).name = k.name :=
        fun types k => Component.name_assign k types a.settings.assignment
      by_cases hne : name = other
      · subst hne
        rw [Container.update_update (hname types), Container.update_update (hname types')]
        -- which of the two it is depends on nothing but the mode
        cases a.settings.assignment with
        | replace =>
          refine Or.inr (congrArg (c.update name) (funext fun k => ?_))
          exact k.assign_replace types .replace types'
        | append =>
          refine Or.inl (congrArg (c.update name) (funext fun k => ?_))
          exact k.assign_append_comm types types'
      · exact Or.inl (c.update_comm hne (hname types) (hname types'))
    · rw [hwrite' _ halike, hwrite' c (.refl c)]
      exact Or.inl rfl
  · rw [hwrite _ halike', hwrite c (.refl c)]
    exact Or.inl rfl

/-- The same results, written again, change nothing and are reported as before. -/
theorem writeAll_again (a : Analyzer) (c : Container)
    (results : List (ComponentView × Except AnalysisError NameSet)) :
    a.writeAll (a.writeAll c results).1 results = a.writeAll c results := by
  refine Prod.ext ?_ ?_
  · rw [writeAll_fst, writeAll_fst]
    exact foldl_foldl_of_absorb (fun c entry => a.write_again c entry.1.name entry.2)
      (fun c entry entry' => a.write_swap c entry.1.name entry'.1.name entry.2 entry'.2) results c
  · rw [a.writeAll_snd (a.writeAll_alike c results), a.writeAll_snd (.refl c)]

theorem analyzeContainer_again (a : Analyzer) (c : Container) :
    a.analyzeContainer (a.analyzeContainer c).1 = a.analyzeContainer c := by
  have halike : c.Alike (a.analyzeContainer c).1 := a.writeAll_alike c _
  have hwrites := a.writeAll_again c
    ((ComponentView.allInContainer c).map fun v => (v, a.find v))
  rw [analyzeContainer, halike.allInContainer, halike.name]
  simp only [analyzeContainer, hwrites]

theorem analyzeSystem_again (a : Analyzer) (s : SoftwareSystem) :
    a.analyzeSystem (a.analyzeSystem s).1 = a.analyzeSystem s := by
  simp only [analyzeSystem, List.map_map, Function.comp_def, analyzeContainer_again]

/-- **Analysing again**: a second analysis of any model by the same analyzer finds the model as the
first one left it, leaves it so, and gives the same report. -/
theorem analyzeModel_again (a : Analyzer) (m : Model) :
    a.analyzeModel (a.analyzeModel m).1 = a.analyzeModel m := by
  simp only [analyzeModel, List.map_map, Function.comp_def, analyzeSystem_again, List.flatMap_map]

end Analyzer

end ComponentSupport
