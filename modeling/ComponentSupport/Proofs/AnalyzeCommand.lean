import ComponentSupport.Proofs.Construction
import ComponentSupport.Proofs.Isolation
import ComponentSupport.Proofs.PrintedReports
import ComponentSupport.Proofs.Reading
import ComponentSupport.Proofs.TreeEquality

/-!
# All or nothing

`analyze` loads a configuration, a snapshot and a model, analyses the model, prints the report,
writes the model, and last looks at whether a failure of a component is to count. `run_analyze` says
what comes of it. If one of the things cannot be loaded, the run fails, and nothing is printed or
written. If all of them can, no later step fails: the analyzer is there, because what is loaded was
checked, and the report and the model are delivered, also when the run then fails because a component
did. The model that is delivered keeps all rules, as the one that was loaded did
(`Analyzer.validate_analyzeModel`).

What is loaded is said in terms of the files: what is in each of them, and what that is read as
(`Loaded`). What is delivered is said in terms of the texts: one that tells of the report (`TellsOf`),
and one that holds the model (`Holds`).
-/

namespace ComponentSupport

/-! ### Analysis keeps the rules -/

namespace Analyzer

theorem containers_analyzeSystem (a : Analyzer) (s : SoftwareSystem) :
    (a.analyzeSystem s).1.containers = s.containers.map fun c => (a.analyzeContainer c).1 :=
  List.map_map

theorem softwareSystems_analyzeModel (a : Analyzer) (m : Model) :
    (a.analyzeModel m).1.softwareSystems =
      m.softwareSystems.map fun s => (a.analyzeSystem s).1 :=
  List.map_map

/-- A model that keeps all rules keeps them when it is analysed. -/
theorem validate_analyzeModel (a : Analyzer) {m : Model} (h : m.validate = .ok ()) :
    (a.analyzeModel m).1.validate = .ok () := by
  rw [Model.validate_eq_ok_iff] at h ⊢
  intro s hs
  rw [softwareSystems_analyzeModel] at hs
  obtain ⟨before, hbefore, rfl⟩ := List.mem_map.1 hs
  obtain ⟨hname, hcontainers⟩ := h before hbefore
  refine ⟨hname, fun c hc => ?_⟩
  rw [containers_analyzeSystem] at hc
  obtain ⟨old, hold, rfl⟩ := List.mem_map.1 hc
  exact a.valid_writeAll (hcontainers old hold) _

end Analyzer

/-- A report is a success when no component failed. -/
theorem Report.isSuccess_iff (r : Report) :
    r.isSuccess = true ↔ ∀ o ∈ r.outcomes, ∃ types, o.result = .ok types := by
  have houtcome : ∀ o : ComponentOutcome, o.isSuccess = true ↔ ∃ types, o.result = .ok types := by
    intro o
    unfold ComponentOutcome.isSuccess
    cases o.result with
    | error e => exact iff_of_false nofun nofun
    | ok types => exact iff_of_true rfl ⟨types, rfl⟩
  simp only [isSuccess, ContainerReport.isSuccess, List.all_eq_true, houtcome, outcomes,
    List.mem_flatMap, forall_exists_index, and_imp]
  exact ⟨fun h o c hc ho => h c hc o ho, fun h c hc o ho => h o c hc ho⟩

/-- The console is at no path below the current directory. -/
theorem Place.ofPath?_ne_console {path : String} (h : path.startsWith "/" = false) :
    Place.ofPath? path ≠ some .console := by
  unfold ofPath?
  rw [h]
  split
  · exact nofun
  · exact nofun

/-! ### What is loaded was checked -/

namespace AnalysisConfig

theorem validate_of_ofYaml {text : String} {c : AnalysisConfig} (h : ofYaml text = .ok c) :
    c.validate = .ok () := by
  simp only [ofYaml, ofYamlTree, bind_eq_ok_iff, pure_eq_ok_iff] at h
  obtain ⟨t, -, version, -, ⟨⟩, -, read, -, ⟨⟩, hvalid, rfl⟩ := h
  exact hvalid

theorem validate_standard : standard.validate = .ok () := by decide

end AnalysisConfig

theorem Snapshot.ofFile_eq_ok_iff {files : Files} {path : String} {s : Snapshot} :
    ofFile files path = .ok s ↔ ∃ text, files.read path = .ok text ∧ ofJson text = .ok s := by
  unfold ofFile
  cases files.read path <;> simp

namespace CommandLine

variable {files : Files} {r : AnalyzeRequest} {config : AnalysisConfig} {snapshot : Snapshot}
  {model : Model}

/-- What a request names can be loaded: its files can be read and hold a configuration, a snapshot of
the types, and a model that keeps all rules. Without a file for it the configuration is the standard
one. -/
structure Loaded (files : Files) (r : AnalyzeRequest) (config : AnalysisConfig)
    (snapshot : Snapshot) (model : Model) : Prop where
  config_loads :
    match r.config with
    | none => config = .standard
    | some path => ∃ text, files.read path = .ok text ∧ AnalysisConfig.ofYaml text = .ok config
  types_load : ∃ text, files.read r.types = .ok text ∧ Snapshot.ofJson text = .ok snapshot
  model_loads : ∃ text, files.read r.model = .ok text ∧ Model.ofYaml text = .ok model
  model_valid : model.validate = .ok ()

theorem loadConfig_eq_ok_iff :
    loadConfig files r = .ok config ↔
      match r.config with
      | none => config = .standard
      | some path =>
        ∃ text, files.read path = .ok text ∧ AnalysisConfig.ofYaml text = .ok config := by
  unfold loadConfig
  cases r.config with
  | none => exact ⟨fun h => (Except.ok.inj h).symm, fun h => h ▸ rfl⟩
  | some path => simp only [AnalysisConfig.ofFile, bind_eq_ok_iff, mapError_eq_ok_iff]

theorem validate_of_loadConfig (h : loadConfig files r = .ok config) :
    config.validate = .ok () := by
  rw [loadConfig_eq_ok_iff] at h
  cases hconfig : r.config with
  | none =>
    rw [hconfig] at h
    obtain rfl := h
    exact AnalysisConfig.validate_standard
  | some path =>
    rw [hconfig] at h
    obtain ⟨text, -, htext⟩ := h
    exact AnalysisConfig.validate_of_ofYaml htext

theorem loadModel_eq_ok_iff :
    loadModel files r = .ok model ↔
      (∃ text, files.read r.model = .ok text ∧ Model.ofYaml text = .ok model) ∧
        model.validate = .ok () := by
  simp only [loadModel, bind_eq_ok_iff, mapError_eq_ok_iff, pure_eq_ok_iff]
  constructor
  · rintro ⟨text, htext, read, hread, ⟨⟩, hvalid, rfl⟩
    exact ⟨⟨text, htext, hread⟩, hvalid⟩
  · rintro ⟨⟨text, htext, hread⟩, hvalid⟩
    exact ⟨text, htext, model, hread, (), hvalid, rfl⟩

/-- When everything is loaded, the analyzer is there and the analysis is carried out. -/
theorem analyze_of_loaded (h : Loaded files r config snapshot model) :
    ∃ a, config.buildAnalyzer snapshot.toGraph = .ok a ∧
      analyze files r = .ok (a.analyzeModel model) := by
  have hload := loadConfig_eq_ok_iff.2 h.config_loads
  have hconfig := validate_of_loadConfig hload
  have htypes := Snapshot.ofFile_eq_ok_iff.2 h.types_load
  obtain ⟨made, -, hbuild⟩ := AnalysisConfig.exists_buildAnalyzer hconfig snapshot.toGraph
  refine ⟨_, hbuild, ?_⟩
  refine bind_eq_ok_iff.2 ⟨config, hload, ?_⟩
  refine bind_eq_ok_iff.2 ⟨snapshot, mapError_eq_ok_iff.2 htypes, ?_⟩
  refine bind_eq_ok_iff.2 ⟨model, loadModel_eq_ok_iff.2 ⟨h.model_loads, h.model_valid⟩, ?_⟩
  exact bind_eq_ok_iff.2 ⟨_, mapError_eq_ok_iff.2 hbuild, rfl⟩

theorem exists_loaded_of_analyze {result : Model × Report} (h : analyze files r = .ok result) :
    ∃ config snapshot model, Loaded files r config snapshot model := by
  simp only [analyze, bind_eq_ok_iff, mapError_eq_ok_iff] at h
  obtain ⟨config, hconfig, snapshot, hsnapshot, model, hmodel, -⟩ := h
  obtain ⟨hread, hvalid⟩ := loadModel_eq_ok_iff.1 hmodel
  exact ⟨config, snapshot, model, loadConfig_eq_ok_iff.1 hconfig, Snapshot.ofFile_eq_ok_iff.1 hsnapshot,
    hread, hvalid⟩

/-! ### Delivering -/

/-- A text holds a model: it is the YAML text of a tree that is read as the model in every dialect,
and a reader that gets the tree from the text gets the model. -/
def Holds (text : String) (m : Model) : Prop :=
  ∃ t : Tree, text = t.toYaml ∧ (∀ d, Model.ofTree d t = .ok m) ∧
    (Tree.ofShapedYaml Model.shape text = .ok t → Model.ofYaml text = .ok m)

theorem holds_toYaml (m : Model) : Holds m.toYaml m := by
  refine ⟨m.toTree, rfl, fun d => m.ofTree_toTree d, fun htext => ?_⟩
  rw [Model.ofYaml, htext]
  exact congrArg (Except.mapError _) (m.ofTree_toTree .modelFile)

namespace Outcome

/-- A report is printed, and the text of a model goes to a path, if there is one. What goes to the
console comes after the report. -/
def Delivers (o : Outcome) (output : Option String) (report model : String) : Prop :=
  match output with
  | none => o.stdout = report ∧ o.written = none
  | some path =>
    if Place.ofPath? path = some .console then o.stdout = report ++ model ∧ o.written = none
    else o.stdout = report ∧ o.written = some (path, model)

/-- The outcome with a text that goes to a path, if there is one. -/
def saveTo (files : Files) (output : Option String) (text : String) (o : Outcome) : Outcome :=
  match output with
  | some path => o.save files path text
  | none => o

theorem saveTo_delivers {output : Option String}
    (h : ∀ path, output = some path → files.canWrite path = true) (report model : String) :
    let o := saveTo files output model { exitCode := 0, stdout := report }
    o.exitCode = 0 ∧ o.Delivers output report model := by
  cases output with
  | none => exact ⟨rfl, rfl, rfl⟩
  | some path =>
    by_cases hplace : Place.ofPath? path = some .console
    · simp [saveTo, save, Delivers, h path rfl, hplace]
    · simp [saveTo, save, Delivers, h path rfl, hplace]

end Outcome

/-- A run whose analysis is carried out delivers the results, and fails only if a component failed
and that is to count. -/
theorem runAnalyze_of_analyze {report : Report} (h : analyze files r = .ok (model, report))
    (houtput : ∀ path, r.output = some path → files.canWrite path = true) :
    (runAnalyze files r).Delivers r.output (printed report.summary r.format ++ "\n")
        model.toYaml ∧
      ((runAnalyze files r).exitCode = 0 ↔
        r.strict = false ∨ ∀ o ∈ report.outcomes, ∃ types, o.result = .ok types) := by
  obtain ⟨hcode, hdelivers⟩ :=
    Outcome.saveTo_delivers houtput (printed report.summary r.format ++ "\n") model.toYaml
  have hrun : runAnalyze files r =
      let saved := Outcome.saveTo files r.output model.toYaml
        { exitCode := 0, stdout := printed report.summary r.format ++ "\n" }
      if saved.exitCode = 0 && r.strict && !report.isSuccess then
        { saved with exitCode := 1, error := some s!"{report.failureCount} component(s) failed" }
      else saved := by
    rw [runAnalyze, h]
    rfl
  generalize Outcome.saveTo files r.output model.toYaml _ = saved at hcode hdelivers hrun
  rw [hrun, ← Report.isSuccess_iff]
  cases hstrict : r.strict with
  | false => simp [hcode, hdelivers]
  | true =>
    cases hsuccess : report.isSuccess with
    | true => simp [hcode, hdelivers]
    | false =>
      -- the failure comes last, and takes nothing back
      simp only [hcode, decide_true, Bool.not_false, Bool.and_self, if_true]
      exact ⟨hdelivers, iff_of_false Nat.one_ne_zero (by simp)⟩

/-! ### Runs -/

/-- **All or nothing**: for a request whose output can be written, either something cannot be
loaded, and then the run fails, prints nothing and writes nothing; or the analyzer is there, what is
printed tells of the report of the analysis, what is written holds the model that the analysis leaves,
which keeps all rules, and the run succeeds just when it is not strict or no component failed. -/
theorem run_analyze {args : List String} (hargs : parse? args = some (.analyze r))
    (houtput : ∀ path, r.output = some path → files.canWrite path = true) :
    ((¬ ∃ config snapshot model, Loaded files r config snapshot model) →
      (run files args).exitCode ≠ 0 ∧ (run files args).stdout = "" ∧
        (run files args).written = none) ∧
    ∀ config snapshot model, Loaded files r config snapshot model →
      ∃ a after report, config.buildAnalyzer snapshot.toGraph = .ok a ∧
        a.analyzeModel model = (after, report) ∧ after.validate = .ok () ∧
        TellsOf (printed report.summary r.format ++ "\n") report r.format ∧
        Holds after.toYaml after ∧
        (run files args).Delivers r.output (printed report.summary r.format ++ "\n")
          after.toYaml ∧
        ((run files args).exitCode = 0 ↔
          r.strict = false ∨ ∀ o ∈ report.outcomes, ∃ types, o.result = .ok types) := by
  have hrun : run files args = runAnalyze files r := by
    rw [run, hargs]
    rfl
  rw [hrun]
  constructor
  · intro hnot
    cases h : analyze files r with
    | ok result => exact absurd (exists_loaded_of_analyze h) hnot
    | error error =>
      rw [runAnalyze, h]
      exact ⟨Nat.one_ne_zero, rfl, rfl⟩
  · intro config snapshot model hloaded
    obtain ⟨a, hbuild, hanalyze⟩ := analyze_of_loaded hloaded
    obtain ⟨hdelivers, hcode⟩ := runAnalyze_of_analyze hanalyze houtput
    exact ⟨a, _, _, hbuild, rfl, a.validate_analyzeModel hloaded.model_valid,
      tellsOf_printed _ r.format, holds_toYaml _, hdelivers, hcode⟩

/-! ### A strict run -/

namespace Sample

/-- A file with a configuration. -/
def configText : String := "version: 1\nstrategies:\n- kind: all_types_in_package\n"

/-- What the file holds. -/
def configuration : AnalysisConfig := { version := 1, strategies := [.allTypesInPackage] }

/-- A file with two types of a package. -/
def typesText : String := "\x7b\"types\": \x7b\"p.B\": \x7b\x7d, \"p.H\": \x7b\x7d\x7d\x7d"

/-- What the file holds. -/
def types : Snapshot := { types := .ofList [("p.B", {}), ("p.H", {})] }

/-- A file with a model of two components. The primary type of one of them is no type name. -/
def modelText : String :=
  "software_systems:\n- name: S\n  containers:\n  - name: K\n    components:\n" ++
    "    - name: a\n      primary_type: p..A\n    - name: b\n      primary_type: p.B\n"

/-- What the file holds, with the types that support the second component. -/
def modelWith (supporting : NameSet) : Model where
  softwareSystems := [
    { name := "S"
      containers := [
        { name := "K"
          components := [
            { name := "a", primaryType := "p..A" },
            { name := "b", primaryType := "p.B", supportingTypes := supporting }] }] }]

/-- The three files. -/
def directory : Files where
  read path :=
    if path = "c.yaml" then .ok configText
    else if path = "t.json" then .ok typesText
    else if path = "m.yaml" then .ok modelText
    else .error Files.missing
  canWrite _ := true

/-- The files but the configuration. -/
def unconfigured : Files :=
  { directory with read := fun path =>
      if path = "c.yaml" then .error Files.missing else directory.read path }

/-- A strict run over the files. -/
def args : List String :=
  ["analyze", "-t", "t.json", "--model=m.yaml", "-cc.yaml", "-oout.yaml", "--strict"]

/-- What the run is asked to do. -/
def request : AnalyzeRequest where
  types := "t.json"
  model := "m.yaml"
  config := some "c.yaml"
  format := .text
  output := some "out.yaml"
  strict := true

/-- The lines that tell of the analysis. -/
def lines : List String :=
  ["K",
    "  a (p..A): FAILED [malformed_type_name] " ++
      "Malformed type name 'p..A': type name contains an empty segment",
    "  b (p.B): 1 supporting types",
    "    - p.H",
    "2 components, 1 failed, 1 supporting types"]

theorem ofYaml_configText : AnalysisConfig.ofYaml configText = .ok configuration := by
  have htree : Tree.ofYaml configText = .ok (.object [("version", .int 1),
      ("strategies", .list [.object [("kind", .text "all_types_in_package")]])]) :=
    Tree.ofYaml_eq_ok_of_any (by decide +kernel)
  rw [AnalysisConfig.ofYaml, htree]
  rfl

theorem ofJson_typesText : Snapshot.ofJson typesText = .ok types := by
  have htree : Tree.ofJson? typesText =
      some (.object [("types", .object [("p.B", .object []), ("p.H", .object [])])]) :=
    Tree.ofJson?_eq_some_of_any (by decide +kernel)
  rw [Snapshot.ofJson, htree]
  rfl

theorem ofYaml_modelText : Model.ofYaml modelText = .ok (modelWith ∅) := by decide +kernel

/-- What is written is read again. -/
theorem ofYaml_toYaml_modelWith :
    Model.ofYaml (modelWith (.ofList ["p.H"])).toYaml = .ok (modelWith (.ofList ["p.H"])) := by
  rw [Model.toYaml, Tree.toYaml, Model.ofYaml, Tree.ofShapedYaml, Yaml.characters_ofList]
  decide +kernel

/-- What comes of the analysis: the model, the lines, and that a component failed. -/
theorem analysis :
    (configuration.buildAnalyzer types.toGraph).toOption.any (fun a =>
      let (after, report) := a.analyzeModel (modelWith ∅)
      after == modelWith (.ofList ["p.H"]) && report.lines == lines && !report.isSuccess) = true := by
  decide +kernel

end Sample

/-- The run fails, tells of both components, and has written a model that is read with what was found
for the second one. Without the configuration nothing is printed or written. -/
theorem run_analyze_strict :
    parse? Sample.args = some (.analyze Sample.request) ∧
      (∀ path, Sample.request.output = some path → Sample.directory.canWrite path = true) ∧
      (run Sample.directory Sample.args).exitCode ≠ 0 ∧
      (run Sample.directory Sample.args).stdout = unlines Sample.lines ∧
      (∃ text, (run Sample.directory Sample.args).written = some ("out.yaml", text) ∧
        Model.ofYaml text = .ok (Sample.modelWith (.ofList ["p.H"]))) ∧
      (run Sample.unconfigured Sample.args).exitCode ≠ 0 ∧
      (run Sample.unconfigured Sample.args).stdout = "" ∧
      (run Sample.unconfigured Sample.args).written = none := by
  have hargs : parse? Sample.args = some (.analyze Sample.request) := by decide +kernel
  have houtput : ∀ path, Sample.request.output = some path →
      Sample.directory.canWrite path = true := fun _ _ => rfl
  have hunconfigured : ∀ path, Sample.request.output = some path →
      Sample.unconfigured.canWrite path = true := fun _ _ => rfl
  have hloaded : Loaded Sample.directory Sample.request Sample.configuration Sample.types
      (Sample.modelWith ∅) :=
    ⟨⟨_, rfl, Sample.ofYaml_configText⟩, ⟨_, rfl, Sample.ofJson_typesText⟩,
      ⟨_, rfl, Sample.ofYaml_modelText⟩, by decide⟩
  have hnot : ¬ ∃ config snapshot model,
      Loaded Sample.unconfigured Sample.request config snapshot model := by
    rintro ⟨_, _, _, ⟨⟨text, htext, -⟩, -, -, -⟩⟩
    cases htext
  obtain ⟨a, after, report, hbuild, hresult, -, htells, -, hdelivers, hcode⟩ :=
    (run_analyze hargs houtput).2 _ _ _ hloaded
  have hanalysis := Sample.analysis
  rw [hbuild] at hanalysis
  simp only [Except.toOption, Option.any_some, hresult, Bool.and_eq_true, beq_iff_eq,
    Bool.not_eq_true'] at hanalysis
  obtain ⟨⟨rfl, hlines⟩, hfails⟩ := hanalysis
  have hplace : Place.ofPath? "out.yaml" ≠ some .console :=
    Place.ofPath?_ne_console (by decide +kernel)
  rw [Sample.request, Outcome.Delivers, if_neg hplace] at hdelivers
  refine ⟨hargs, houtput, fun hzero => ?_, ?_, ⟨_, hdelivers.2, Sample.ofYaml_toYaml_modelWith⟩,
    (run_analyze hargs hunconfigured).1 hnot⟩
  · rcases hcode.1 hzero with hstrict | hsuccess
    · cases hstrict
    · rw [← Report.isSuccess_iff, hfails] at hsuccess
      cases hsuccess
  · rw [hdelivers.1, ← hlines]
    exact htells

end CommandLine

end ComponentSupport
