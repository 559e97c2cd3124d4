import ComponentSupport.Proofs.Writing
import Mathlib.Algebra.GroupWithZero.Nat

/-!
# Totals of reports

A summary has an entry for each component, below its container, and three totals beside them. The two
are made apart: the totals are counted over the outcomes of the report, as one long list, and the
entries are made from the outcomes one by one, under their containers. `Report.totals_recounted` says
that a reader who counts the entries again comes to the totals.

It is enough that the entries are, in order, those of the outcomes (`Report.entries_summary`). Each
total then counts something of an outcome that its entry shows as well.

The theorem says too whom an analysis reports about: every container of the model and every component
in it, as they were declared. Components may share a name there, and each has an outcome of its own.
-/

namespace ComponentSupport

/-! ### Who is listed -/

/-- The containers of a model by their names, each with the names and primary types in it. -/
def Model.roster (m : Model) : List (String × List (String × String)) :=
  m.containers.map fun c => (c.name, c.identities)

/-- The containers that a report is about, each with the names and primary types in it. -/
def Report.roster (r : Report) : List (String × List (String × String)) :=
  r.containers.map fun c =>
    (c.container, c.outcomes.map fun o => (o.component, o.primaryType))

namespace ReportSummary

/-- The containers that a summary lists, each with the names and primary types in it. -/
def roster (s : ReportSummary) : List (String × List (String × String)) :=
  s.containers.map fun c =>
    (c.container, c.components.map fun e => (e.component, e.primaryType))

/-- The entries of all components, container by container. -/
def entries (s : ReportSummary) : List ComponentSummary :=
  s.containers.flatMap (·.components)

end ReportSummary

/-! ### Entries and outcomes -/

/-- An entry tells either what was found, or of a failure, by its kind and its message, and then of
nothing that was found. -/
def ComponentSummary.TellsOneThing (e : ComponentSummary) : Prop :=
  (e.errorKind = none ∧ e.error = none) ∨
    (e.errorKind.isSome ∧ e.error.isSome ∧ e.supportingTypes = [])

namespace ComponentOutcome

theorem isSome_error_summary (o : ComponentOutcome) : o.summary.error.isSome = !o.isSuccess := by
  unfold summary isSuccess
  cases o.result <;> rfl

theorem length_supportingTypes_summary (o : ComponentOutcome) :
    o.summary.supportingTypes.length = o.supportingTypeCount := by
  unfold summary supportingTypeCount
  cases o.result <;> rfl

theorem tellsOneThing_summary (o : ComponentOutcome) : o.summary.TellsOneThing := by
  unfold summary
  cases o.result with
  | ok types => exact Or.inl ⟨rfl, rfl⟩
  | error e => exact Or.inr ⟨rfl, rfl, rfl⟩

theorem subject_summary (o : ComponentOutcome) :
    (o.summary.component, o.summary.primaryType) = (o.component, o.primaryType) := by
  unfold summary
  cases o.result <;> rfl

end ComponentOutcome

namespace Report

/-- The entries of a summary are those of the outcomes, in order. -/
theorem entries_summary (r : Report) : r.summary.entries = r.outcomes.map (·.summary) := by
  simp only [ReportSummary.entries, summary, ContainerReport.summary, outcomes, List.flatMap_map,
    List.map_flatMap]

theorem roster_summary (r : Report) : r.summary.roster = r.roster := by
  simp only [ReportSummary.roster, summary, ContainerReport.summary, roster, List.map_map,
    Function.comp_def, ComponentOutcome.subject_summary]

theorem supportingTypeCount_eq_sum (r : Report) :
    r.supportingTypeCount = (r.outcomes.map (·.supportingTypeCount)).sum := by
  rw [supportingTypeCount, List.sum_eq_foldl, List.foldl_map]

/-- A report is a success when it counts no failure. -/
theorem isSuccess_iff_failureCount (r : Report) : r.isSuccess = true ↔ r.failureCount = 0 := by
  have hall : r.isSuccess = r.outcomes.all (·.isSuccess) := by
    simp only [isSuccess, ContainerReport.isSuccess, outcomes, List.all_flatMap]
  rw [hall, failureCount, List.length_eq_zero_iff, List.filter_eq_nil_iff, List.all_eq_true]
  simp

end Report

/-! ### Totals and entries -/

/-- The totals of a summary are those that its entries come to. -/
structure ReportSummary.Recounted (s : ReportSummary) : Prop where
  components : s.components = s.entries.length
  failures : s.failures = s.entries.countP (·.error.isSome)
  supportingTypes : s.supportingTypes = (s.entries.map (·.supportingTypes.length)).sum

theorem Report.recounted_summary (r : Report) : r.summary.Recounted where
  components := by
    rw [r.entries_summary, List.length_map]
    rfl
  failures := by
    rw [r.entries_summary, List.countP_map, List.countP_eq_length_filter]
    show (r.outcomes.filter fun o => !o.isSuccess).length =
      (r.outcomes.filter fun o => o.summary.error.isSome).length
    simp only [ComponentOutcome.isSome_error_summary]
  supportingTypes := by
    rw [r.entries_summary, List.map_map]
    show r.supportingTypeCount = (r.outcomes.map fun o => o.summary.supportingTypes.length).sum
    simp only [ComponentOutcome.length_supportingTypes_summary, r.supportingTypeCount_eq_sum]

/-! ### Whom an analysis reports about -/

namespace Analyzer

/-- There is one outcome for each component, also where components share a name. -/
theorem subjects_analyzeContainer (a : Analyzer) (c : Container) :
    (a.analyzeContainer c).2.outcomes.map (fun o => (o.component, o.primaryType)) =
      c.identities := by
  simp only [analyzeContainer]
  rw [a.writeAll_snd (.refl c), ComponentView.allInContainer]
  simp only [List.map_map]
  rfl

theorem roster_analyzeModel (a : Analyzer) (m : Model) : (a.analyzeModel m).2.roster = m.roster := by
  have hcontainers : (a.analyzeModel m).2.containers =
      m.containers.map fun c => (a.analyzeContainer c).2 := by
    simp only [analyzeModel, analyzeSystem, Model.containers, List.flatMap_map, List.map_flatMap,
      List.map_map, Function.comp_def]
  rw [Report.roster, hcontainers, List.map_map]
  exact List.map_congr_left fun c _ =>
    congrArg (c.name, ·) (a.subjects_analyzeContainer c)

end Analyzer

/-- **Totals are those of the entries**: the summary of any report lists its containers and components
in order, its totals are what its entries come to, no entry tells of a failure and of types at once,
and the report is a success just when the failures are none. The report of an analysis lists every
container and every component of the model, each once and as declared. -/
theorem Report.totals_recounted :
    (∀ r : Report,
      r.summary.roster = r.roster ∧
      r.summary.Recounted ∧
      (∀ e ∈ r.summary.entries, e.TellsOneThing) ∧
      (r.isSuccess = true ↔ r.summary.failures = 0)) ∧
    ∀ (a : Analyzer) (m : Model),
      (a.analyzeModel m).2.roster = m.roster ∧
      (a.analyzeModel m).2.summary.components = m.components.length := by
  constructor
  · intro r
    refine ⟨r.roster_summary, r.recounted_summary, fun e he => ?_, r.isSuccess_iff_failureCount⟩
    rw [r.entries_summary] at he
    obtain ⟨o, -, rfl⟩ := List.mem_map.1 he
    exact o.tellsOneThing_summary
  · intro a m
    have hroster := a.roster_analyzeModel m
    refine ⟨hroster, ?_⟩
    have hlengths := congrArg (fun l => (l.map fun c => c.2.length).sum) hroster
    show (a.analyzeModel m).2.outcomes.length = m.components.length
    simpa [Report.roster, Model.roster, Container.identities, Report.outcomes, Model.components,
      List.length_flatMap, Function.comp_def] using hlengths

end ComponentSupport
