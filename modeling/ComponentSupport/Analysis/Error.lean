import ComponentSupport.Architecture.Error
import ComponentSupport.TypeName

/-!
# Why an analysis fails

`AnalysisError` lists the causes. Each has a kind, which documents and reports name by its `label`,
a message, and for some a subject: the type name that the cause is about.
-/

namespace ComponentSupport

/-- The kinds of failure. -/
inductive ErrorKind where
  | notConfigured
  | malformedTypeName
  | traversalLimitExceeded
  | model
  | io
  | serialization
  deriving DecidableEq, Repr

/-- The name of a kind in reports. -/
def ErrorKind.label : ErrorKind → String
  | notConfigured => "not_configured"
  | malformedTypeName => "malformed_type_name"
  | traversalLimitExceeded => "traversal_limit_exceeded"
  | model => "model"
  | io => "io"
  | serialization => "serialization"

/-- Why an analysis, or a part of it, failed. -/
inductive AnalysisError where
  /-- A strategy was asked before it was given a type graph. -/
  | notConfigured (strategy : String)
  /-- A text is no type name. -/
  | malformedTypeName (name reason : String)
  /-- A traversal met more types than it may. -/
  | traversalLimitExceeded (start : String) (limit : Nat)
  /-- The model refused a result. -/
  | model (cause : ModelError)
  /-- A document could not be read as the data it should hold. -/
  | serialization (detail : String)
  /-- A file could not be read. -/
  | io (detail : String)
  /-- A failure of any kind, reported by a strategy that is not of this library. -/
  | reported (kind : ErrorKind) (message : String)
  deriving DecidableEq, Repr

namespace AnalysisError

/-- A refused type name as a failure of the analysis. -/
def ofMalformedName (m : MalformedName) : AnalysisError :=
  malformedTypeName m.name m.fault.reason

/-- The kind of a failure. -/
def kind : AnalysisError → ErrorKind
  | notConfigured _ => .notConfigured
  | malformedTypeName _ _ => .malformedTypeName
  | traversalLimitExceeded _ _ => .traversalLimitExceeded
  | model _ => .model
  | serialization _ => .serialization
  | io _ => .io
  | reported kind _ => kind

/-- The wording of a failure. -/
def message : AnalysisError → String
  | notConfigured strategy => s!"No type repository has been configured for {strategy}"
  | malformedTypeName name reason => s!"Malformed type name '{name}': {reason}"
  | traversalLimitExceeded start limit =>
    s!"Traversal from '{start}' visited more than {limit} types; the type repository is likely " ++
      "corrupted"
  | model cause => cause.message
  | serialization detail => s!"JSON error: {detail}"
  | io detail => s!"IO error: {detail}"
  | reported _ message => message

/-- The type name that a failure is about. -/
def subject : AnalysisError → Option String
  | malformedTypeName name _ => some name
  | traversalLimitExceeded start _ => some start
  | _ => none

/-- The kind and the wording in one line. -/
def display (e : AnalysisError) : String :=
  s!"[{e.kind.label}] {e.message}"

end AnalysisError

end ComponentSupport
