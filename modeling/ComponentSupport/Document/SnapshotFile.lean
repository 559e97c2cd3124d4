import ComponentSupport.Analysis.Error
import ComponentSupport.Document.Snapshot
import ComponentSupport.Files
import ComponentSupport.Json.Parser
import ComponentSupport.Json.Printer

/-!
# Snapshot files

A snapshot is handed over as a JSON text.
-/

namespace ComponentSupport.Snapshot

/-- The JSON text of a snapshot. -/
def toJson (s : Snapshot) : String := s.toTree.toJson

/-- Reads a snapshot from a JSON text. -/
def ofJson (text : String) : Except AnalysisError Snapshot :=
  match Tree.ofJson? text with
  | none => .error (.serialization "no JSON value")
  | some t => (ofTree .json t).mapError fun e => .serialization e.message

/-- Reads a snapshot from a file. -/
def ofFile (files : Files) (path : String) : Except AnalysisError Snapshot :=
  match files.read path with
  | .ok text => ofJson text
  | .error detail => .error (.io detail)

end ComponentSupport.Snapshot
