/-
**Scanning a source.**

A scanner looks for the export macro, reads the declarations it introduces and makes the manifest.
A scan has a result, tells its events in order, and gives back the clock, which it asks once if the
macro is found and not otherwise. `Scanner.run` reads the source from a file tree and publishes the
manifest there; nothing is written unless the scan succeeds.
-/

import ExportManifest.Clock
import ExportManifest.Definition
import ExportManifest.Extraction
import ExportManifest.FileTree.Publish
import ExportManifest.Manifest.Layout
import ExportManifest.Settings.Basic

namespace ExportManifest

/-- What a completed scan found. -/
structure Outcome where
  exportMacro : Text
  manifest : Manifest
  /-- The numbers of the lines that begin with the macro and hold no signature. -/
  skipped : List Nat
  /-- Where the manifest was written, if it was. -/
  output? : Option Text
deriving DecidableEq

/-- The course of a scan: its result, the events it told, and the clock after it. -/
structure Scan where
  result : Except Failure Outcome
  events : List Event
  clock : Clock

/-- A scanner: the attribute to look for, the indentation of manifests, and the clock. -/
structure Scanner where
  exportAttribute : Text
  indent : Nat
  clock : Clock

namespace Scanner

/-- The scanner with default settings. -/
def initial (clock : Clock) : Scanner :=
  { exportAttribute := Settings.defaultExportAttribute, indent := Settings.defaultIndent, clock }

/-- The scanner that the settings ask for. -/
def ofSettings (settings : Settings) (clock : Clock) : Scanner :=
  { exportAttribute := settings.exportAttribute, indent := settings.indent, clock }

/-- Scans a text; `source` is recorded in the manifest as it is given. -/
def scanText (scanner : Scanner) (source text : Text) (version : Int64) : Scan :=
  let search := Definition.search scanner.exportAttribute text.lines
  match search.1 with
  | none =>
    { result := .error (.noExportMacro source scanner.exportAttribute)
      events := search.2
      clock := scanner.clock }
  | some exportMacro =>
    let reading := Extraction.read exportMacro text.lines
    let extraction := reading.1
    let manifest : Manifest :=
      { schemaVersion := version
        source
        timestamp := scanner.clock.now
        functions := extraction.functions }
    { result := .ok { exportMacro, manifest, skipped := extraction.skipped, output? := none }
      events := search.2 ++ reading.2 ++ [extraction.finishEvent exportMacro]
      clock := scanner.clock.next }

/-- Scans what reading the source gave. Bytes that are not UTF-8 do not stop a scan. -/
def scanContent (scanner : Scanner) (source : Text) (content : Except FileFault (List UInt8))
    (version : Int64) : Scan :=
  match content with
  | .error fault =>
    { result := .error (.unreadableSource source fault), events := [], clock := scanner.clock }
  | .ok bytes => scanner.scanText source (Utf8.decodeLossy bytes) version

/-- Scans a file without writing anything. -/
def scanFile (scanner : Scanner) (tree : FileTree) (source : Text) (version : Int64) : Scan :=
  scanner.scanContent source (tree.read source) version

/-- The bytes of the manifest file for an outcome. -/
def fileBytes (scanner : Scanner) (outcome : Outcome) : List UInt8 :=
  Utf8.encode (outcome.manifest.render scanner.indent)

end Scanner

/-- The course of a scan whose manifest was then to be written, by how the writing ended. -/
def Scan.written (scan : Scan) (outcome : Outcome) (output : Text)
    (writing : Except FileFault Unit) : Scan :=
  match writing with
  | .error fault => { scan with result := .error (.unwritableOutput output fault) }
  | .ok () =>
    { scan with
      result := .ok { outcome with output? := some output }
      events := scan.events ++
        [.manifestWritten outcome.manifest.source output outcome.manifest.count] }

/-- Scans a file and writes the manifest, where writing goes as given; the tag tells the temporary
file from those of others. -/
def Scanner.runVia (scanner : Scanner) (writing : FileTree.Writing) (tree : FileTree)
    (tag source output : Text) (version : Int64) : Scan × FileTree :=
  let scan := scanner.scanFile tree source version
  match scan.result with
  | .error _ => (scan, tree)
  | .ok outcome =>
    let publication := tree.publishVia output tag writing (scanner.fileBytes outcome)
    (scan.written outcome output publication.1, publication.2)

/-- Scans a file and writes the manifest. -/
def Scanner.run (scanner : Scanner) (tree : FileTree) (tag source output : Text)
    (version : Int64) : Scan × FileTree :=
  scanner.runVia .whole tree tag source output version

end ExportManifest
