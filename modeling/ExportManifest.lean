import ExportManifest.CommandLine.Program
import ExportManifest.Main
import ExportManifest.Manifest.Reading
import ExportManifest.Proofs.Json.Spelling
import ExportManifest.Proofs.Manifest.RoundTrip
import ExportManifest.Proofs.FileTree.Entries
import ExportManifest.Proofs.FileTree.Resolution
import ExportManifest.Proofs.FileTree.Publication
import ExportManifest.Proofs.Scanner.Completion
import ExportManifest.Proofs.FileTree.TemporaryPath
import ExportManifest.Proofs.FileTree.Steps
import ExportManifest.Proofs.FileTree.Interleaving
import ExportManifest.Proofs.Signature.Grammar
import ExportManifest.Proofs.Signature.Readings
import ExportManifest.Proofs.Scanner.Passes
import ExportManifest.Proofs.Scanner.RawBytes
import ExportManifest.Proofs.Scanner.Rescan
import ExportManifest.Proofs.Scanner.Log
import ExportManifest.Proofs.Scanner.Session
import ExportManifest.Proofs.Toml.Scalars
import ExportManifest.Proofs.CommandLine.FirstFailure
import ExportManifest.Proofs.FileTree.Republication
import ExportManifest.Proofs.Scanner.LineEndings
import ExportManifest.Proofs.Scanner.MacroToken
import ExportManifest.Proofs.Json.Acceptance
import ExportManifest.Proofs.Json.Characters
import ExportManifest.Proofs.Scanner.Repetition
import ExportManifest.Proofs.Json.Records
import ExportManifest.Proofs.Manifest.Contents
import ExportManifest.Proofs.Toml.Documents
import ExportManifest.Proofs.CommandLine.GivenAttribute
import ExportManifest.Proofs.Settings.Written
import ExportManifest.Proofs.Text.Blank
import ExportManifest.Proofs.Extraction.Accounting
import ExportManifest.Proofs.Scanner.FirstDefinition
import ExportManifest.Proofs.Text.Decimal
import ExportManifest.Proofs.Manifest.Outline
import ExportManifest.Proofs.Manifest.SchemaVersion
import ExportManifest.Proofs.Manifest.RejectedVersion
import ExportManifest.Proofs.Report
import ExportManifest.Proofs.Scanner.AttributePlace
import ExportManifest.Proofs.Scanner.FieldBlanks
