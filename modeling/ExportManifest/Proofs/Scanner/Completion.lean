/-
**What a successful run leaves behind.**

A run reads its source once, before it writes anything, and both passes over the source see the
same lines. So what the manifest lists is settled by the tree before the run, also where the output
is the source itself or a link to it.

* `functions_ofLines`: extraction lists what the lines that begin with the macro declare, line by
  line.
* `Scanner.Finds`: **what a scan of given bytes has to find**, said without its passes.
* `Scanner.runVia_ok`: a run that succeeds read the source, found this and published it.
* `run_leaves_found_manifest`: the output then names a file of the manifest found, which reads back
  as that manifest, and nothing else has changed.
-/

import ExportManifest.Proofs.FileTree.Publication
import ExportManifest.Proofs.Manifest.RoundTrip
import ExportManifest.Proofs.Text.Encoding
import Mathlib.Control.Monad.Basic

namespace ExportManifest

open FileTree

/-! ### What a scan finds -/

/-- The signature that a line declares: the line begins with the macro, and what follows the macro
holds a signature. -/
def declared? (exportMacro line : Text) : Option Signature :=
  (exportMacro.isPrefixOf? line).bind Signature.parse?

theorem functions_readFrom (exportMacro : Text) (number : Nat) (lines : List Text) :
    (Extraction.readFrom exportMacro number lines).1.functions =
      lines.filterMap (declared? exportMacro) := by
  induction lines generalizing number with
  | nil => rfl
  | cons line rest ih =>
    rw [Extraction.readFrom, List.filterMap_cons, declared?]
    cases exportMacro.isPrefixOf? line with
    | none => exact ih (number + 1)
    | some declaration =>
      simp only [Option.bind_some]
      cases Signature.parse? declaration with
      | none => exact ih (number + 1)
      | some signature => exact congrArg (signature :: ·) (ih (number + 1))

/-- **Extraction lists what the lines declare**, in their order and with repetitions. -/
theorem functions_ofLines (exportMacro : Text) (lines : List Text) :
    (Extraction.ofLines exportMacro lines).functions = lines.filterMap (declared? exportMacro) :=
  functions_readFrom exportMacro 1 lines

/-- What a scanner finds in the bytes of a source: the macro that the lines bind to the attribute,
and a manifest of what the lines declare under that macro, with the version and the name of the
source as they were given and the time that the clock shows. -/
structure Scanner.Finds (scanner : Scanner) (source : Text) (bytes : List UInt8) (version : Int64)
    (outcome : Outcome) : Prop where
  exportMacro :
    exportMacro? scanner.exportAttribute (Utf8.decodeLossy bytes).lines = some outcome.exportMacro
  functions :
    outcome.manifest.functions =
      (Utf8.decodeLossy bytes).lines.filterMap (declared? outcome.exportMacro)
  schemaVersion : outcome.manifest.schemaVersion = version
  source : outcome.manifest.source = source
  timestamp : outcome.manifest.timestamp = scanner.clock.now

namespace Scanner

variable {scanner : Scanner} {tree : FileTree} {source : Text} {version : Int64}
  {outcome : Outcome}

/-- **A scan that succeeds** found what the bytes hold, and asked the clock once. -/
theorem scanContent_ok {content : Except FileFault (List UInt8)}
    (succeeds : (scanner.scanContent source content version).result = .ok outcome) :
    (∃ bytes, content = .ok bytes ∧ scanner.Finds source bytes version outcome) ∧
      (scanner.scanContent source content version).clock = scanner.clock.next := by
  cases content with
  | error fault => cases succeeds
  | ok bytes =>
    unfold scanContent scanText at succeeds ⊢
    simp only at succeeds ⊢
    cases searched :
        (Definition.search scanner.exportAttribute (Utf8.decodeLossy bytes).lines).1 with
    | none =>
      rw [searched] at succeeds
      cases succeeds
    | some exportMacro =>
      rw [searched] at succeeds
      cases succeeds
      exact ⟨⟨bytes, rfl, searched, functions_ofLines _ _, rfl, rfl, rfl⟩, rfl⟩

/-- What was found does not depend on where it is written. -/
theorem Finds.withOutput {bytes : List UInt8} (finds : scanner.Finds source bytes version outcome)
    (output? : Option Text) :
    scanner.Finds source bytes version { outcome with output? := output? } :=
  ⟨finds.exportMacro, finds.functions, finds.schemaVersion, finds.source, finds.timestamp⟩

/-! ### What a run leaves -/

/-- **A run that succeeds** scanned the source and published what it found. -/
theorem runVia_ok {writing : Writing} {tag output : Text}
    (succeeds : (scanner.runVia writing tree tag source output version).1.result = .ok outcome) :
    ∃ found,
      (scanner.scanFile tree source version).result = .ok found ∧
      outcome = { found with output? := some output } ∧
      (tree.publishVia output tag writing (scanner.fileBytes found)).1 = .ok () ∧
      (scanner.runVia writing tree tag source output version).2 =
        (tree.publishVia output tag writing (scanner.fileBytes found)).2 ∧
      (scanner.runVia writing tree tag source output version).1.clock =
        (scanner.scanFile tree source version).clock := by
  unfold runVia at succeeds ⊢
  simp only at succeeds ⊢
  cases scanned : (scanner.scanFile tree source version).result with
  | error failure =>
    rw [scanned] at succeeds
    simp only at succeeds
    rw [scanned] at succeeds
    cases succeeds
  | ok found =>
    rw [scanned] at succeeds
    simp only [Scan.written] at succeeds ⊢
    cases ended : (tree.publishVia output tag writing (scanner.fileBytes found)).1 with
    | error fault =>
      rw [ended] at succeeds
      cases succeeds
    | ok _ =>
      rw [ended] at succeeds
      cases succeeds
      exact ⟨found, rfl, rfl, ended, rfl, rfl⟩

/-- The bytes of a manifest file read back as the manifest. -/
theorem parse?_fileBytes (scanner : Scanner) (outcome : Outcome) :
    (Utf8.decode? (scanner.fileBytes outcome)).bind Manifest.parse? = some outcome.manifest := by
  rw [fileBytes, Utf8.decode?_encode, Option.bind_some, Manifest.parse?_render]

end Scanner

/-- **A run that succeeds leaves the manifest of its source.** Whatever the tree, the scanner, the
paths and the version, the source was a file before the run; the outcome holds what its bytes
declare and names the output; the entry that the output named before the run is now a file of that
manifest, whose bytes read back as it; and every other entry is as before. The clock was asked once.
The name of the temporary file is taken to be fresh. -/
theorem run_leaves_found_manifest (scanner : Scanner) (writing : Writing) (tree : FileTree)
    (tag source output : Text) (version : Int64) (outcome : Outcome)
    (fresh : tree.freshTag output tag = true)
    (succeeds : (scanner.runVia writing tree tag source output version).1.result = .ok outcome) :
    let run := scanner.runVia writing tree tag source output version
    let written := Utf8.encode (outcome.manifest.render scanner.indent)
    (∃ bytes, tree.read source = .ok bytes ∧ scanner.Finds source bytes version outcome) ∧
      outcome.output? = some output ∧
      (∃ location, tree.namedLocation? output = some location ∧
        Replaced tree run.2 location written) ∧
      (Utf8.decode? written).bind Manifest.parse? = some outcome.manifest ∧
      run.1.clock = scanner.clock.next := by
  intro run written
  obtain ⟨found, scanned, rfl, publishes, after, clock⟩ := Scanner.runVia_ok succeeds
  obtain ⟨⟨bytes, reads, finds⟩, asked⟩ := Scanner.scanContent_ok scanned
  obtain ⟨location, named, replaced⟩ := publishVia_ok fresh publishes
  refine ⟨⟨bytes, reads, finds.withOutput _⟩, rfl, ⟨location, named, ?_⟩,
    scanner.parse?_fileBytes found, clock.trans asked⟩
  rw [after]
  exact replaced

/-- A tree with a source and a link to it. -/
def linkedSource : FileTree :=
  { entries := [(["w".toList], .directory), (["w".toList, "in".toList], .link "a.c".toList),
      (["w".toList, "a.c".toList], .file (Utf8.encode "#define API x\nAPI int f(void)\n".toList))]
    workDirectory := ["w".toList] }

/-- What a scan of that source finds. -/
def linkedOutcome : Outcome :=
  { exportMacro := "API".toList
    manifest :=
      { schemaVersion := 1
        source := "in".toList
        timestamp := "now".toList
        functions := [{ name := "f".toList, returnType := "int".toList, args := "void".toList }] }
    skipped := []
    output? := some "a.c".toList }

/-- A source overwritten by its own manifest, which lists what the source declared before: the
input is a link to the output. -/
theorem run_leaves_found_manifest_overwriting :
    let scanner : Scanner :=
      { exportAttribute := "x".toList, indent := 2, clock := .fixed "now".toList }
    let run := scanner.runVia .whole linkedSource "7.9".toList "in".toList "a.c".toList 1
    linkedSource.freshTag "a.c".toList "7.9".toList = true ∧ run.1.result = .ok linkedOutcome ∧
      Replaced linkedSource run.2 ["w".toList, "a.c".toList]
        (Utf8.encode (linkedOutcome.manifest.render scanner.indent)) := by
  have fresh : linkedSource.freshTag "a.c".toList "7.9".toList = true := by decide
  have succeeds : (Scanner.runVia ⟨"x".toList, 2, .fixed "now".toList⟩ .whole linkedSource
      "7.9".toList "in".toList "a.c".toList 1).1.result = .ok linkedOutcome := by decide +kernel
  have place : linkedSource.namedLocation? "a.c".toList = some ["w".toList, "a.c".toList] := by
    decide
  obtain ⟨_, _, ⟨location, named, replaced⟩, _⟩ :=
    run_leaves_found_manifest _ _ _ _ _ _ _ _ fresh succeeds
  rw [place, Option.some.injEq] at named
  subst named
  exact ⟨fresh, succeeds, replaced⟩

end ExportManifest
