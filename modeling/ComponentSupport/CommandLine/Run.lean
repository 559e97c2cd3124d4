import ComponentSupport.Analysis.Analyzer
import ComponentSupport.CommandLine.Arguments
import ComponentSupport.Document.ConfigFile
import ComponentSupport.Document.ModelFile
import ComponentSupport.Document.SnapshotFile
import ComponentSupport.Document.Summary

/-!
# Running commands

`run` carries out a command line over the files that can be reached: what it prints, what it writes,
and how it ends. Of a failure the error says which step failed and on which file.
-/

namespace ComponentSupport.CommandLine

/-- How a command ended. -/
structure Outcome where
  exitCode : Nat
  stdout : String := ""
  error : Option String := none
  /-- The file that is to be written, and its text. -/
  written : Option (String × String) := none
  deriving DecidableEq, Repr

/-- The outcome of arguments that are no command. -/
def Outcome.usage : Outcome := { exitCode := 2 }

/-- The outcome of a step that failed before anything was printed. -/
def Outcome.failed (error : String) : Outcome := { exitCode := 1, error := some error }

/-- The outcome as it is when its file could not be written. -/
def Outcome.unwritten (o : Outcome) (path : String) : Outcome :=
  { o with exitCode := 1, error := some ("Failed to write model " ++ path), written := none }

/-- The outcome with a text that is to be written, which is printed if that is where it goes. -/
def Outcome.save (files : Files) (path text : String) (o : Outcome) : Outcome :=
  if !files.canWrite path then o.unwritten path
  else if Place.ofPath? path = some .console then { o with stdout := o.stdout ++ text }
  else { o with written := some (path, text) }

/-- The first line of the error, without the character that may end a line before its break. -/
def Outcome.headline (o : Outcome) : Option String :=
  o.error.map fun error =>
    let line := error.toList.takeWhile (· ≠ '\n')
    String.ofList (if line.getLast? = some '\r' then line.dropLast else line)

/-- The configuration of a request: that of its file, or the standard one. -/
def loadConfig (files : Files) (r : AnalyzeRequest) : Except String AnalysisConfig :=
  match r.config with
  | none => .ok .standard
  | some path => (AnalysisConfig.ofFile files path).mapError fun _ => "Failed to load config " ++ path

/-- The model of a request, which keeps all rules. -/
def loadModel (files : Files) (r : AnalyzeRequest) : Except String Model := do
  let text ← (files.read r.model).mapError fun _ => "Failed to read model " ++ r.model
  let model ← (Model.ofYaml text).mapError fun _ => "Failed to parse model " ++ r.model
  model.validate.mapError fun _ => "Invalid model " ++ r.model
  return model

/-- The analysis that a request asks for: the model with the types that were found, and the
report. -/
def analyze (files : Files) (r : AnalyzeRequest) : Except String (Model × Report) := do
  let config ← loadConfig files r
  let snapshot ← (Snapshot.ofFile files r.types).mapError fun _ =>
    "Failed to load type graph " ++ r.types
  let model ← loadModel files r
  let analyzer ← (config.buildAnalyzer snapshot.toGraph).mapError fun _ =>
    "Failed to build analyzer"
  return analyzer.analyzeModel model

/-- The text of a summary in a form. -/
def printed (summary : ReportSummary) : ReportFormat → String
  | .text => summary.text
  | .json => summary.toTree.toJson

/-- Carries out `analyze`. The report is printed and the model written even if the failure of a
component makes the command fail. -/
def runAnalyze (files : Files) (r : AnalyzeRequest) : Outcome :=
  match analyze files r with
  | .error error => .failed error
  | .ok (model, report) =>
    let printed : Outcome :=
      { exitCode := 0, stdout := printed report.summary r.format ++ "\n" }
    let saved :=
      match r.output with
      | some path => printed.save files path model.toYaml
      | none => printed
    if saved.exitCode = 0 && r.strict && !report.isSuccess then
      { saved with exitCode := 1, error := some s!"{report.failureCount} component(s) failed" }
    else saved

/-- Carries out a command. -/
def Command.run (files : Files) : Command → Outcome
  | .analyze r => runAnalyze files r
  | .defaultConfig => { exitCode := 0, stdout := AnalysisConfig.standard.toYaml }

/-- Carries out a command line. -/
def run (files : Files) (args : List String) : Outcome :=
  match parse? args with
  | some command => command.run files
  | none => .usage

end ComponentSupport.CommandLine
