import ComponentSupport.CommandLine.Run
import ComponentSupport.Proofs.WrittenForms

/-!
# What is printed of a report

A report is printed as text or as JSON, in either case from its summary. The text is made of the lines
of the report (`Report.lines`): one for each container and each component in it, one for each type
that was found, and one with the totals. From the JSON the summary can be read again, as it is nested
six deep only and its totals are numbers of 64 bits.

`CommandLine.tellsOf_printed` says both.
-/

namespace ComponentSupport

/-! ### Lines -/

/-- Lines, each with its end. -/
def unlines (lines : List String) : String := String.join (lines.map (· ++ "\n"))

@[simp] theorem unlines_cons (line : String) (lines : List String) :
    unlines (line :: lines) = line ++ "\n" ++ unlines lines := String.join_cons

theorem unlines_append (a b : List String) : unlines (a ++ b) = unlines a ++ unlines b := by
  rw [unlines, List.map_append, String.join_append]
  rfl

/-- Blocks of lines, one after the other. -/
theorem unlines_flatMap {α : Type} (l : List α) (f : α → List String) :
    unlines (l.flatMap f) = String.join (l.map fun x => unlines (f x)) := by
  induction l with
  | nil => rfl
  | cons x rest ih =>
    rw [List.flatMap_cons, unlines_append, ih, List.map_cons, String.join_cons]

/-- The lines about one component: what was found, one type a line, or the failure. -/
def ComponentOutcome.lines (o : ComponentOutcome) : List String :=
  match o.result with
  | .ok types =>
    s!"  {o.component} ({o.primaryType}): {types.size} supporting types" ::
      types.toList.map ("    - " ++ ·)
  | .error e =>
    [s!"  {o.component} ({o.primaryType}): FAILED [{e.kind.label}] {e.message}"]

/-- The lines about one container: its name, and the lines about its components. -/
def ContainerReport.lines (c : ContainerReport) : List String :=
  c.container :: c.outcomes.flatMap (·.lines)

/-- The line with the totals of a report. -/
def Report.totals (r : Report) : String :=
  s!"{r.componentCount} components, {r.failureCount} failed, " ++
    s!"{r.supportingTypeCount} supporting types"

/-- The lines of a report. -/
def Report.lines (r : Report) : List String := r.containers.flatMap (·.lines) ++ [r.totals]

theorem ComponentOutcome.text_summary (o : ComponentOutcome) :
    o.summary.text = unlines o.lines := by
  unfold summary lines
  cases o.result with
  | ok types =>
    have hend : " supporting types\n" = " supporting types" ++ "\n" := rfl
    simp [ComponentSummary.text, unlines, Function.comp_def, String.append_assoc, toString, hend,
      NameSet.size]
  | error e => simp [ComponentSummary.text, unlines, String.append_assoc, toString]

theorem ContainerReport.text_summary (c : ContainerReport) :
    c.summary.text = unlines c.lines := by
  rw [lines, unlines_cons, unlines_flatMap, summary, ContainerSummary.text, List.map_map]
  simp only [Function.comp_def, ComponentOutcome.text_summary]
  rfl

/-- The text of a summary, with the end of its last line, is the lines of the report. -/
theorem Report.text_summary (r : Report) : r.summary.text ++ "\n" = unlines r.lines := by
  rw [lines, unlines_append, unlines_flatMap, summary, ReportSummary.text, List.map_map]
  simp only [Function.comp_def, ContainerReport.text_summary]
  simp [unlines, totals, String.append_assoc]

/-! ### JSON -/

theorem ComponentSummary.plainWithin_toTree (n : Nat) (s : ComponentSummary) :
    Json.PlainWithin (n + 2) s.toTree := by
  refine .object fun f hf => ?_
  simp only [List.mem_append, Tree.mem_textsField, Tree.mem_textField?] at hf
  rcases hf with ((hf | ⟨-, rfl⟩) | ⟨_, -, rfl⟩) | ⟨_, -, rfl⟩
  · rcases List.mem_pair.1 hf with rfl | rfl <;> exact .text _
  · exact .texts s.supportingTypes
  · exact .text _
  · exact .text _

theorem ContainerSummary.plainWithin_toTree (n : Nat) (s : ContainerSummary) :
    Json.PlainWithin (n + 4) s.toTree := by
  refine .object fun f hf => ?_
  rcases List.mem_pair.1 hf with rfl | rfl
  · exact .text s.container
  · refine .list fun t ht => ?_
    obtain ⟨e, -, rfl⟩ := List.mem_map.1 ht
    exact e.plainWithin_toTree n

theorem ReportSummary.plainWithin_toTree {s : ReportSummary} (h : s.InRange) :
    Json.PlainWithin Json.maxNesting s.toTree := by
  refine .object fun f hf => ?_
  simp only [List.mem_cons, List.not_mem_nil, or_false] at hf
  rcases hf with rfl | rfl | rfl | rfl
  · exact .count h.components
  · exact .count h.failures
  · exact .count h.supportingTypes
  · refine .list fun t ht => ?_
    obtain ⟨c, -, rfl⟩ := List.mem_map.1 ht
    exact c.plainWithin_toTree 121

/-! ### Both forms -/

namespace CommandLine

/-- A text tells of a report: by its lines, or, if its totals are numbers of 64 bits, as JSON that is
read as its summary. -/
def TellsOf (text : String) (r : Report) : ReportFormat → Prop
  | .text => text = unlines r.lines
  | .json => r.summary.InRange →
    ∃ t, Tree.ofJson? text = some t ∧ ReportSummary.ofTree .json t = .ok r.summary

/-- What is printed of the summary of a report tells of the report. -/
theorem tellsOf_printed (r : Report) (format : ReportFormat) :
    TellsOf (printed r.summary format ++ "\n") r format := by
  cases format with
  | text => exact r.text_summary
  | json =>
    intro hrange
    exact ⟨_, Tree.ofJson?_line (ReportSummary.plainWithin_toTree hrange),
      ReportSummary.ofTree_toTree .json hrange⟩

end CommandLine

end ComponentSupport
