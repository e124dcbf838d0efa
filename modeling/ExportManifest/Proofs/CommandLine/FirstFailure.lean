/-
**The first step that fails decides.**

A run of the program goes through five stages: settings, arguments, reading, detection, writing.
`Arguments.failureAt` says what fails at each of them, taken on its own; several may fail at once.
The program reports the first of these failures in the order of the stages, and nothing else of a
failed run can be seen: no output, and a tree as it was. Where no stage fails, the manifest stands
in its place and the report is told.

* `Arguments.chosenSettings`, `Arguments.chosenScanner`: what a run goes by, from the arguments and
  the tree.
* `Arguments.execute_unloaded`, `Arguments.execute_unnumbered`, `Arguments.execute_started`: **how
  far a run gets**; the only places where `Arguments.execute` is opened.
* `Arguments.firstFailure?_started`: beyond the settings and the version, the first failure is the
  one that the scan and the publication give.
* `program_all_or_nothing`: the program succeeds if and only if its settings load, its version can
  be read and its run succeeds; else it reports the first failure and changes nothing.
-/

import ExportManifest.CommandLine.Program
import ExportManifest.Proofs.Scanner.Passes

namespace ExportManifest

open FileTree

/-! ### What a run goes by -/

namespace Arguments

/-- The settings of the file given as an argument, or else of the file `dllscan.toml` in the work
directory, if there is one, or else none. -/
def chosenSettings (arguments : Arguments) (tree : FileTree) : Except Failure Settings :=
  match arguments.settingsPath? with
  | some path => tree.loadSettings path
  | none =>
    if tree.holds "./dllscan.toml".toList then tree.loadSettings "./dllscan.toml".toList
    else .ok Settings.absent

/-- The attribute given as an argument, or else that of the settings; an empty one, or none, stands
for the default. -/
def chosenAttribute (arguments : Arguments) (settings : Settings) : Text :=
  match arguments.exportAttribute?, settings.exportAttribute? with
  | some given, _ => if given = [] then Settings.defaultExportAttribute else given
  | none, some configured =>
    if configured = [] then Settings.defaultExportAttribute else configured
  | none, none => Settings.defaultExportAttribute

/-- The scanner of a run. -/
def chosenScanner (arguments : Arguments) (settings : Settings) (clock : Clock) : Scanner :=
  { exportAttribute := arguments.chosenAttribute settings, indent := settings.indent, clock }

/-- Whether a run tells more than one line. -/
def chosenVerbose (arguments : Arguments) (settings : Settings) : Bool :=
  arguments.verbose || settings.verbose

/-- The scan and the publication of a run, for given settings and a given version. -/
def run (arguments : Arguments) (surroundings : Surroundings) (tree : FileTree)
    (settings : Settings) (version : Int64) : Scan × FileTree :=
  (arguments.chosenScanner settings surroundings.clock).runVia surroundings.writing tree
    surroundings.tag arguments.source arguments.output version

/-- All steps of a run go well. -/
structure Succeeds (arguments : Arguments) (surroundings : Surroundings) (tree : FileTree)
    (settings : Settings) (version : Int64) (outcome : Outcome) : Prop where
  loads : arguments.chosenSettings tree = .ok settings
  parses : SchemaVersion.parse arguments.schemaVersion = .ok version
  runs : (arguments.run surroundings tree settings version).1.result = .ok outcome

end Arguments

/-! ### What fails at each stage -/

/-- The error of a result. -/
def error? {ε α : Type} : Except ε α → Option ε
  | .error error => some error
  | .ok _ => none

/-- The stages of a run, in their order. -/
def Stage.inOrder : List Stage :=
  [.config, .arguments, .read, .detect, .write]

namespace Arguments

/-- What fails at a stage, taken on its own. Detection and writing need what earlier stages give,
and where one of those fails they do not fail themselves. -/
def failureAt (arguments : Arguments) (surroundings : Surroundings) (tree : FileTree) :
    Stage → Option Failure
  | .config => error? (arguments.chosenSettings tree)
  | .arguments => error? (SchemaVersion.parse arguments.schemaVersion)
  | .read => (error? (tree.read arguments.source)).map (.unreadableSource arguments.source)
  | .detect =>
    match arguments.chosenSettings tree, tree.read arguments.source with
    | .ok settings, .ok bytes =>
      let exportAttribute := arguments.chosenAttribute settings
      match exportMacro? exportAttribute (Utf8.decodeLossy bytes).lines with
      | none => some (.noExportMacro arguments.source exportAttribute)
      | some _ => none
    | _, _ => none
  | .write =>
    match arguments.chosenSettings tree, SchemaVersion.parse arguments.schemaVersion with
    | .ok settings, .ok version =>
      let scanner := arguments.chosenScanner settings surroundings.clock
      match (scanner.scanFile tree arguments.source version).result with
      | .ok found =>
        (error? (tree.publishVia arguments.output surroundings.tag surroundings.writing
          (scanner.fileBytes found)).1).map (.unwritableOutput arguments.output)
      | .error _ => none
    | _, _ => none

/-- The failure of the first stage that fails. -/
def firstFailure? (arguments : Arguments) (surroundings : Surroundings) (tree : FileTree) :
    Option Failure :=
  Stage.inOrder.findSome? (arguments.failureAt surroundings tree)

end Arguments

/-- How a failure of a run on the given source is reported. -/
def Diagnosis.ofFailure (source : Text) (failure : Failure) : Diagnosis :=
  match failure.stage with
  | .config => .settings failure
  | _ => .stage source failure

/-! ### The stages of a run -/

namespace Scanner

variable (scanner : Scanner) (writing : Writing) (tree : FileTree) (tag source output : Text)
  (version : Int64)

theorem scanFile_result :
    (scanner.scanFile tree source version).result =
      match tree.read source with
      | .error fault => .error (.unreadableSource source fault)
      | .ok bytes =>
        match exportMacro? scanner.exportAttribute (Utf8.decodeLossy bytes).lines with
        | none => .error (.noExportMacro source scanner.exportAttribute)
        | some exportMacro =>
          .ok (scanner.outcomeOf source (Utf8.decodeLossy bytes) version exportMacro) := by
  unfold scanFile scanContent
  cases tree.read source with
  | error fault => rfl
  | ok bytes => exact scanText_result scanner source (Utf8.decodeLossy bytes) version

theorem runVia_result :
    (scanner.runVia writing tree tag source output version).1.result =
      match (scanner.scanFile tree source version).result with
      | .error failure => .error failure
      | .ok found =>
        match (tree.publishVia output tag writing (scanner.fileBytes found)).1 with
        | .error fault => .error (.unwritableOutput output fault)
        | .ok () => .ok { found with output? := some output } := by
  unfold runVia
  simp only
  cases scanned : (scanner.scanFile tree source version).result with
  | error failure => exact scanned
  | ok found =>
    simp only [Scan.written]
    cases (tree.publishVia output tag writing (scanner.fileBytes found)).1 <;> rfl

end Scanner

/-! ### Telling a report -/

namespace Sink

theorem writeLines_unlimited {sink : Sink} (endless : sink.room? = none) (lines : List Text) :
    sink.writeLines lines =
      (.ok (), { sink with
        taken := sink.taken ++ lines.flatMap fun line => Utf8.encode (line ++ ['\n']) }) := by
  induction lines generalizing sink with
  | nil => rw [writeLines, List.flatMap_nil, List.append_nil]
  | cons line later ih =>
    rw [writeLines, write, endless]
    simp only
    rw [ih rfl, List.flatMap_cons, List.append_assoc]

end Sink

/-- The bytes of a report. -/
def Outcome.reportBytes (outcome : Outcome) (verbose : Bool) : List UInt8 :=
  (outcome.reportLines verbose).flatMap fun line => Utf8.encode (line ++ ['\n'])

theorem Outcome.report_unlimited (outcome : Outcome) (verbose : Bool) :
    outcome.report verbose Sink.unlimited =
      (.ok (), { Sink.unlimited with taken := outcome.reportBytes verbose }) :=
  Sink.writeLines_unlimited rfl (outcome.reportLines verbose)

/-! ### What the program does -/

namespace Arguments

variable {arguments : Arguments} {surroundings : Surroundings} {tree : FileTree}
  {settings : Settings} {version : Int64} {outcome : Outcome}

theorem loadSettings_eq (arguments : Arguments) (tree : FileTree) :
    arguments.loadSettings tree = arguments.chosenSettings tree := by
  have path : Settings.pathIn Path.here = "./dllscan.toml".toList := by decide
  unfold loadSettings chosenSettings
  cases arguments.settingsPath? with
  | some path => rfl
  | none =>
    simp only [settingsIn, path]
    split
    · cases tree.loadSettings "./dllscan.toml".toList <;> rfl
    · rfl

theorem scanner_ofSettings (arguments : Arguments) (settings : Settings) (clock : Clock) :
    Scanner.ofSettings (arguments.override settings) clock =
      arguments.chosenScanner settings clock := by
  unfold Scanner.ofSettings chosenScanner chosenAttribute override
  cases arguments.exportAttribute? with
  | some given => cases given <;> rfl
  | none =>
    unfold Settings.exportAttribute
    cases settings.exportAttribute? with
    | some configured => cases configured <;> rfl
    | none => rfl

/-- The run that is started once the settings and the version are known. -/
def job (arguments : Arguments) (settings : Settings) (version : Int64) (clock : Clock) : Job :=
  { scanner := arguments.chosenScanner settings clock
    source := arguments.source
    output := arguments.output
    schemaVersion := version
    verbose := arguments.chosenVerbose settings }

theorem execute_unloaded {failure : Failure}
    (fails : arguments.chosenSettings tree = .error failure) :
    arguments.execute surroundings tree = (.failed (.settings failure), tree) := by
  unfold execute
  rw [loadSettings_eq, fails]
  rfl

theorem execute_unnumbered {failure : Failure}
    (loads : arguments.chosenSettings tree = .ok settings)
    (fails : SchemaVersion.parse arguments.schemaVersion = .error failure) :
    arguments.execute surroundings tree =
      (.failed (.stage arguments.source failure), tree) := by
  unfold execute
  rw [loadSettings_eq, loads, Job.ofSettings, fails]

theorem execute_started (loads : arguments.chosenSettings tree = .ok settings)
    (parses : SchemaVersion.parse arguments.schemaVersion = .ok version) :
    arguments.execute surroundings tree =
      ((arguments.job settings version surroundings.clock).conclude surroundings.logFilter?
        surroundings.stdout (arguments.run surroundings tree settings version).1,
        (arguments.run surroundings tree settings version).2) := by
  unfold execute
  rw [loadSettings_eq, loads, Job.ofSettings, parses]
  simp only
  rw [scanner_ofSettings]
  rfl

/-! ### The first failure -/

theorem firstFailure?_unloaded {failure : Failure}
    (fails : arguments.chosenSettings tree = .error failure) :
    arguments.firstFailure? surroundings tree = some failure := by
  have config : arguments.failureAt surroundings tree .config = some failure := by
    rw [failureAt, fails, error?]
  simp only [firstFailure?, Stage.inOrder, List.findSome?_cons, config]

theorem firstFailure?_unnumbered {failure : Failure}
    (loads : arguments.chosenSettings tree = .ok settings)
    (fails : SchemaVersion.parse arguments.schemaVersion = .error failure) :
    arguments.firstFailure? surroundings tree = some failure := by
  have config : arguments.failureAt surroundings tree .config = none := by
    rw [failureAt, loads, error?]
  have numbering : arguments.failureAt surroundings tree .arguments = some failure := by
    rw [failureAt, fails, error?]
  simp only [firstFailure?, Stage.inOrder, List.findSome?_cons, config, numbering]

/-- Where the settings load and the version can be read, the first failure is that of the run. -/
theorem firstFailure?_started (loads : arguments.chosenSettings tree = .ok settings)
    (parses : SchemaVersion.parse arguments.schemaVersion = .ok version) :
    arguments.firstFailure? surroundings tree =
      error? (arguments.run surroundings tree settings version).1.result := by
  have searched : (arguments.chosenScanner settings surroundings.clock).exportAttribute =
      arguments.chosenAttribute settings := rfl
  rw [run, Scanner.runVia_result, Scanner.scanFile_result]
  simp only [firstFailure?, Stage.inOrder, List.findSome?_cons, List.findSome?_nil, failureAt,
    loads, parses, error?, Scanner.scanFile_result, searched]
  cases tree.read arguments.source with
  | error fault => rfl
  | ok bytes =>
    simp only
    cases exportMacro? (arguments.chosenAttribute settings) (Utf8.decodeLossy bytes).lines with
    | none => rfl
    | some exportMacro =>
      simp only
      cases (tree.publishVia arguments.output surroundings.tag surroundings.writing _).1 with
      | error fault => rfl
      | ok _ => rfl

end Arguments

/-! ### Each failure names its stage -/

theorem FileTree.loadSettings_error {tree : FileTree} {path : Text} {failure : Failure}
    (fails : tree.loadSettings path = .error failure) : failure.stage = .config := by
  unfold loadSettings Settings.ofContent Settings.parse at fails
  split at fails
  · cases fails
    rfl
  · split at fails
    · cases fails
      rfl
    · split at fails
      · cases fails
      · cases fails
        rfl

theorem SchemaVersion.parse_error {value : Text} {failure : Failure}
    (fails : SchemaVersion.parse value = .error failure) : failure.stage = .arguments := by
  unfold SchemaVersion.parse at fails
  split at fails
  · cases fails
  · cases fails
    rfl

theorem error?_eq_some {ε α : Type} {result : Except ε α} {error : ε}
    (fails : error? result = some error) : result = .error error := by
  cases result with
  | error _ => rw [Option.some.inj fails]
  | ok _ => cases fails

namespace Arguments

variable {arguments : Arguments} {surroundings : Surroundings} {tree : FileTree}
  {settings : Settings} {version : Int64} {outcome : Outcome} {failure : Failure}

theorem chosenSettings_error (fails : arguments.chosenSettings tree = .error failure) :
    failure.stage = .config := by
  unfold chosenSettings at fails
  split at fails
  · exact loadSettings_error fails
  · split at fails
    · exact loadSettings_error fails
    · cases fails

theorem failureAt_stage {stage : Stage}
    (fails : arguments.failureAt surroundings tree stage = some failure) :
    failure.stage = stage := by
  cases stage with
  | config => exact chosenSettings_error (error?_eq_some fails)
  | arguments => exact SchemaVersion.parse_error (error?_eq_some fails)
  | read =>
    obtain ⟨fault, _, rfl⟩ := Option.map_eq_some_iff.mp fails
    rfl
  | detect =>
    unfold failureAt at fails
    simp only at fails
    split at fails
    · split at fails
      · cases fails
        rfl
      · cases fails
    · cases fails
  | write =>
    unfold failureAt at fails
    simp only at fails
    split at fails
    · split at fails
      · obtain ⟨fault, _, rfl⟩ := Option.map_eq_some_iff.mp fails
        rfl
      · cases fails
    · cases fails

/-- A failure after the settings were loaded is reported for the source. -/
theorem ofFailure_loaded (loads : arguments.chosenSettings tree = .ok settings)
    (first : arguments.firstFailure? surroundings tree = some failure) :
    Diagnosis.ofFailure arguments.source failure = .stage arguments.source failure := by
  obtain ⟨stage, _, fails⟩ := List.exists_of_findSome?_eq_some first
  have named := failureAt_stage fails
  unfold Diagnosis.ofFailure
  cases stage with
  | config =>
    rw [failureAt, loads] at fails
    cases fails
  | arguments => rw [named]
  | read => rw [named]
  | detect => rw [named]
  | write => rw [named]

end Arguments

/-! ### The two ends of the program -/

/-- The program says what failed and tells nothing. -/
structure Completion.Refuses (completion : Completion) (diagnosis : Diagnosis) : Prop where
  exitCode : completion.exitCode = 1
  stdout : completion.stdout = []
  diagnosis : completion.diagnosis? = some diagnosis

/-- The program tells the given bytes and has nothing to complain of. -/
structure Completion.Tells (completion : Completion) (report : List UInt8) : Prop where
  exitCode : completion.exitCode = 0
  stdout : completion.stdout = report
  diagnosis : completion.diagnosis? = none

/-- Before the manifest is written, a run has touched nothing. -/
theorem Scanner.runVia_unwritten {scanner : Scanner} {writing : Writing} {tree : FileTree}
    {tag source output : Text} {version : Int64} {failure : Failure}
    (fails : (scanner.runVia writing tree tag source output version).1.result = .error failure)
    (before : failure.stage ≠ .write) :
    (scanner.runVia writing tree tag source output version).2 = tree := by
  rw [runVia_result] at fails
  unfold runVia
  simp only
  cases scanned : (scanner.scanFile tree source version).result with
  | error _ => rfl
  | ok found =>
    rw [scanned] at fails
    simp only at fails
    split at fails
    · cases fails
      exact absurd rfl before
    · cases fails

namespace Arguments

variable {arguments : Arguments} {surroundings : Surroundings} {tree : FileTree}
  {settings : Settings} {version : Int64} {outcome : Outcome} {failure : Failure}

theorem execute_failing (told : surroundings.stdout = Sink.unlimited)
    (first : arguments.firstFailure? surroundings tree = some failure) :
    (arguments.execute surroundings tree).1.Refuses (.ofFailure arguments.source failure) ∧
      ((failure.stage = .write → tree.freshTag arguments.output surroundings.tag = true) →
        (arguments.execute surroundings tree).2 = tree) := by
  cases loads : arguments.chosenSettings tree with
  | error reported =>
    rw [firstFailure?_unloaded loads, Option.some.injEq] at first
    subst first
    have diagnosis : Diagnosis.ofFailure arguments.source reported = .settings reported := by
      rw [Diagnosis.ofFailure, chosenSettings_error loads]
    rw [execute_unloaded loads, diagnosis]
    exact ⟨⟨rfl, rfl, rfl⟩, fun _ => rfl⟩
  | ok settings =>
    rw [ofFailure_loaded loads first]
    cases parses : SchemaVersion.parse arguments.schemaVersion with
    | error reported =>
      rw [firstFailure?_unnumbered loads parses, Option.some.injEq] at first
      subst first
      rw [execute_unnumbered loads parses]
      exact ⟨⟨rfl, rfl, rfl⟩, fun _ => rfl⟩
    | ok version =>
      rw [firstFailure?_started loads parses] at first
      have fails := error?_eq_some first
      rw [execute_started loads parses, told, Job.conclude, fails]
      refine ⟨⟨rfl, rfl, rfl⟩, ?_⟩
      intro fresh
      by_cases writes : failure.stage = .write
      · exact Scanner.runVia_error (fresh writes) fails
      · exact Scanner.runVia_unwritten fails writes

theorem execute_succeeding (told : surroundings.stdout = Sink.unlimited)
    (succeeds : arguments.Succeeds surroundings tree settings version outcome) :
    (arguments.execute surroundings tree).1.Tells
        (outcome.reportBytes (arguments.chosenVerbose settings)) ∧
      (tree.freshTag arguments.output surroundings.tag = true →
        ∃ location, tree.namedLocation? arguments.output = some location ∧
          Replaced tree (arguments.execute surroundings tree).2 location
            (Utf8.encode (outcome.manifest.render settings.indent))) := by
  obtain ⟨loads, parses, runs⟩ := succeeds
  have reported := outcome.report_unlimited (arguments.chosenVerbose settings)
  rw [execute_started loads parses, told, Job.conclude, runs]
  simp only [job, reported]
  refine ⟨⟨rfl, rfl, rfl⟩, ?_⟩
  intro fresh
  obtain ⟨found, _, rfl, publishes, published, _⟩ := Scanner.runVia_ok runs
  obtain ⟨location, named, replaced⟩ := publishVia_ok fresh publishes
  refine ⟨location, named, ?_⟩
  rw [run, published]
  exact replaced

/-- A run whose steps do not all go well has a first failure. -/
theorem succeeds_or_fails (arguments : Arguments) (surroundings : Surroundings) (tree : FileTree) :
    (∃ settings version outcome,
      arguments.Succeeds surroundings tree settings version outcome) ∨
      ∃ failure, arguments.firstFailure? surroundings tree = some failure := by
  cases loads : arguments.chosenSettings tree with
  | error failure => exact Or.inr ⟨failure, firstFailure?_unloaded loads⟩
  | ok settings =>
    cases parses : SchemaVersion.parse arguments.schemaVersion with
    | error failure => exact Or.inr ⟨failure, firstFailure?_unnumbered loads parses⟩
    | ok version =>
      cases runs : (arguments.run surroundings tree settings version).1.result with
      | error failure =>
        refine Or.inr ⟨failure, ?_⟩
        rw [firstFailure?_started loads parses, runs, error?]
      | ok outcome => exact Or.inl ⟨settings, version, outcome, loads, parses, runs⟩

end Arguments

/-- **The program is all or nothing, and the first failing stage is reported.** Whatever the tree
and the arguments that ask for a run, where all bytes of the report are taken: the program exits
with 0 if and only if its settings load, its version can be read and its run succeeds. It then told
the report, and the one entry that the output names has become a file of the manifest. Else it exits
with 1, told nothing, left the tree as it was, and gave the failure of the first stage that fails.
Where a run gets as far as writing, the name of its temporary file is taken to be fresh. -/
theorem program_all_or_nothing (vector : List Text) (arguments : Arguments)
    (surroundings : Surroundings) (tree : FileTree)
    (accepted : Invocation.ofArguments vector = .run arguments)
    (told : surroundings.stdout = Sink.unlimited) :
    let ended := (Invocation.ofArguments vector).execute surroundings tree
    let fresh := tree.freshTag arguments.output surroundings.tag
    (ended.1.exitCode = 0 ↔
      ∃ settings version outcome,
        arguments.Succeeds surroundings tree settings version outcome) ∧
    (∀ settings version outcome,
      arguments.Succeeds surroundings tree settings version outcome →
        ended.1.Tells (outcome.reportBytes (arguments.chosenVerbose settings)) ∧
          (fresh = true → ∃ location, tree.namedLocation? arguments.output = some location ∧
            Replaced tree ended.2 location
              (Utf8.encode (outcome.manifest.render settings.indent)))) ∧
    ((¬∃ settings version outcome,
      arguments.Succeeds surroundings tree settings version outcome) →
        ∃ failure, arguments.firstFailure? surroundings tree = some failure ∧
          ended.1.Refuses (.ofFailure arguments.source failure) ∧
          ((failure.stage = .write → fresh = true) → ended.2 = tree)) ∧
    (∀ stage failure, arguments.failureAt surroundings tree stage = some failure →
      failure.stage = stage) := by
  intro ended fresh
  have executed : ended = arguments.execute surroundings tree := by
    show (Invocation.ofArguments vector).execute surroundings tree = _
    rw [accepted, Invocation.execute]
  rw [executed]
  refine ⟨⟨?_, ?_⟩, ?_, ?_, ?_⟩
  · intro zero
    rcases arguments.succeeds_or_fails surroundings tree with succeeds | ⟨failure, first⟩
    · exact succeeds
    · have one := (Arguments.execute_failing told first).1.exitCode
      exact absurd (one.symm.trans zero) Nat.one_ne_zero
  · rintro ⟨settings, version, outcome, succeeds⟩
    exact (Arguments.execute_succeeding told succeeds).1.exitCode
  · intro settings version outcome succeeds
    exact Arguments.execute_succeeding told succeeds
  · intro unsuccessful
    obtain ⟨failure, first⟩ :=
      (arguments.succeeds_or_fails surroundings tree).resolve_left unsuccessful
    exact ⟨failure, first, Arguments.execute_failing told first⟩
  · intro stage failure fails
    exact Arguments.failureAt_stage fails

/-- A work directory whose settings file is not UTF-8. -/
def brokenSettings : FileTree :=
  { entries := [(["w".toList], .directory),
      (["w".toList, "dllscan.toml".toList], .file [0xFF])]
    workDirectory := ["w".toList] }

/-- Surroundings in which every byte of a report is taken. -/
def plainSurroundings : Surroundings :=
  { clock := .fixed "now".toList, logFilter? := none, tag := "7.9".toList,
    stdout := Sink.unlimited }

/-- Broken settings are reported even where the version is no number and the source is missing, and
a run on a sound tree, whose attribute is given as an argument, tells its report. -/
theorem program_all_or_nothing_broken :
    let failing := ["in.c".toList, "out".toList, "v2".toList]
    let failed := (Invocation.ofArguments failing).execute plainSurroundings brokenSettings
    let sound := ["in".toList, "--attribute".toList, "x".toList, "a.c".toList, "1".toList]
    let succeeded := (Invocation.ofArguments sound).execute plainSurroundings linkedSource
    failed.1.Refuses (.settings (.unusableSettings "./dllscan.toml".toList (.unreadable .notUtf8))) ∧
      failed.2 = brokenSettings ∧
      succeeded.1.Tells (linkedOutcome.reportBytes false) ∧
      Replaced linkedSource succeeded.2 ["w".toList, "a.c".toList]
        (Utf8.encode (linkedOutcome.manifest.render 3)) := by
  intro failing failed sound succeeded
  have unloaded : Arguments.chosenSettings
      ⟨"in.c".toList, "out".toList, "v2".toList, false, none, none⟩ brokenSettings =
        .error (.unusableSettings "./dllscan.toml".toList (.unreadable .notUtf8)) := by
    decide +kernel
  obtain ⟨_, _, refuses, _⟩ := program_all_or_nothing failing
    ⟨"in.c".toList, "out".toList, "v2".toList, false, none, none⟩ plainSurroundings brokenSettings
    (by decide) rfl
  have unsuccessful : ¬∃ settings version outcome, Arguments.Succeeds
      ⟨"in.c".toList, "out".toList, "v2".toList, false, none, none⟩ plainSurroundings
      brokenSettings settings version outcome := by
    rintro ⟨_, _, _, succeeds⟩
    cases unloaded.symm.trans succeeds.loads
  obtain ⟨failure, first, refused, unchanged⟩ := refuses unsuccessful
  obtain rfl : .unusableSettings "./dllscan.toml".toList (.unreadable .notUtf8) = failure :=
    Option.some.inj ((Arguments.firstFailure?_unloaded unloaded).symm.trans first)
  have succeeds : Arguments.Succeeds
      ⟨"in".toList, "a.c".toList, "1".toList, false, some "x".toList, none⟩ plainSurroundings
      linkedSource Settings.absent 1 linkedOutcome :=
    ⟨by decide +kernel, by rfl, by decide +kernel⟩
  obtain ⟨_, tells, _⟩ := program_all_or_nothing sound
    ⟨"in".toList, "a.c".toList, "1".toList, false, some "x".toList, none⟩ plainSurroundings
    linkedSource (by decide) rfl
  obtain ⟨report, replaces⟩ := tells _ _ _ succeeds
  obtain ⟨location, named, replaced⟩ := replaces (by decide)
  have place : linkedSource.namedLocation? "a.c".toList = some ["w".toList, "a.c".toList] := by
    decide
  rw [place, Option.some.injEq] at named
  subst named
  exact ⟨refused, unchanged (by decide), report, replaced⟩

end ExportManifest
