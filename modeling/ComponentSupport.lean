import ComponentSupport.Architecture.Edit
import ComponentSupport.Main
import ComponentSupport.Proofs.RecordedFacts
import ComponentSupport.Proofs.ReferencedTypes
import ComponentSupport.Proofs.Results
import ComponentSupport.Proofs.Siblings
import ComponentSupport.Proofs.ContainerRule
import ComponentSupport.Proofs.Construction
import ComponentSupport.Proofs.Isolation
import ComponentSupport.Proofs.Binding
import ComponentSupport.Proofs.Reading
import ComponentSupport.Proofs.Rebuilding
import ComponentSupport.Proofs.Recapture
import ComponentSupport.Proofs.PackageFilter
import ComponentSupport.Proofs.Writing
import ComponentSupport.Proofs.Reanalysis
import ComponentSupport.Proofs.Decoding
import ComponentSupport.Proofs.JsonText
import ComponentSupport.Proofs.SnapshotText
import ComponentSupport.Proofs.Nesting
import ComponentSupport.Proofs.AnalyzeCommand
import ComponentSupport.Proofs.ConfigText
import ComponentSupport.Proofs.Form
import ComponentSupport.Proofs.UnknownFields
import ComponentSupport.Proofs.Segments
import ComponentSupport.Proofs.PackageScopes
import ComponentSupport.Proofs.Unions
import ComponentSupport.Proofs.SharedTypes
import ComponentSupport.Proofs.Insertion
import ComponentSupport.Proofs.WritePaths
import ComponentSupport.Proofs.TraversalSteps
import ComponentSupport.Proofs.Checking
import ComponentSupport.Proofs.WrittenForms
import ComponentSupport.Proofs.ReportTotals
