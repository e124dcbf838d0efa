/-
**The program.**

A run of the program loads the settings, reads the schema version, scans the source, writes the
manifest and reports, in this order, and the first step that fails decides. Settings given as
arguments win over those of the settings file.

The parts that only compute (`Job.ofSettings`, `Job.conclude`) take what the file system answered
as an argument; `Arguments.execute` puts them together on a file tree. `Invocation.execute` is the
whole program: only arguments that ask for a run can change the tree.
-/

import ExportManifest.CommandLine.Arguments
import ExportManifest.CommandLine.Diagnosis
import ExportManifest.CommandLine.Help
import ExportManifest.LogFilter.Basic
import ExportManifest.Report
import ExportManifest.Settings.Loading

namespace ExportManifest

/-- What a run depends on beside its arguments and the file tree. -/
structure Surroundings where
  clock : Clock
  /-- The text of a log filter, if one is given. -/
  logFilter? : Option Text
  /-- Tells the temporary file of this run from those of others. -/
  tag : Text
  /-- Where the report goes. -/
  stdout : Sink
  /-- How writing the manifest goes. -/
  writing : FileTree.Writing := .whole

/-- How the program ends. -/
structure Completion where
  exitCode : Nat
  stdout : List UInt8
  logs : List Event
  diagnosis? : Option Diagnosis

namespace Completion

/-- The end after nothing but telling a text; it does not matter how much of it could be told. -/
def told (text : Text) (stdout : Sink) : Completion :=
  { exitCode := 0, stdout := (stdout.write (Utf8.encode text)).2.taken, logs := [],
    diagnosis? := none }

/-- The end after arguments that cannot be understood. -/
def misused : Completion :=
  { exitCode := 2, stdout := [], logs := [], diagnosis? := none }

/-- The end by a failure before anything is told. -/
def failed (diagnosis : Diagnosis) : Completion :=
  { exitCode := 1, stdout := [], logs := [], diagnosis? := some diagnosis }

end Completion

namespace Arguments

/-- The path of the settings file, and whether it must exist. -/
def settingsFile (arguments : Arguments) : Text × Bool :=
  match arguments.settingsPath? with
  | some path => (path, true)
  | none => (Settings.pathIn Path.here, false)

/-- The settings with those given as arguments in place of those loaded. -/
def override (arguments : Arguments) (settings : Settings) : Settings :=
  match arguments.exportAttribute? with
  | some value => { settings with exportAttribute? := some value }
  | none => settings

end Arguments

/-- A run that is ready to start. -/
structure Job where
  scanner : Scanner
  source : Text
  output : Text
  schemaVersion : Int64
  verbose : Bool

namespace Job

/-- The run that the arguments and the settings, if these could be loaded, ask for. -/
def ofSettings (arguments : Arguments) (clock : Clock) (loaded : Except Failure Settings) :
    Except Diagnosis Job :=
  match loaded with
  | .error failure => .error (.settings failure)
  | .ok settings =>
    match SchemaVersion.parse arguments.schemaVersion with
    | .error failure => .error (.stage arguments.source failure)
    | .ok schemaVersion =>
      .ok
        { scanner := Scanner.ofSettings (arguments.override settings) clock
          source := arguments.source
          output := arguments.output
          schemaVersion
          verbose := arguments.verbose || settings.verbose }

/-- Ends a run after its scan: the events that pass the filter are logged, and a success is
reported. -/
def conclude (job : Job) (logFilter? : Option Text) (stdout : Sink) (scan : Scan) : Completion :=
  let logs := scan.events.filter (LogFilter.choose logFilter? job.verbose).passes
  match scan.result with
  | .error failure =>
    { exitCode := 1, stdout := stdout.taken, logs, diagnosis? := some (.stage job.source failure) }
  | .ok outcome =>
    match outcome.report job.verbose stdout with
    | (.ok (), sink) => { exitCode := 0, stdout := sink.taken, logs, diagnosis? := none }
    | (.error fault, sink) =>
      { exitCode := 1, stdout := sink.taken, logs, diagnosis? := some (.report fault) }

end Job

namespace Arguments

/-- The settings that the arguments name, or else those of the work directory, if there are any. -/
def loadSettings (arguments : Arguments) (tree : FileTree) : Except Failure Settings :=
  match arguments.settingsPath? with
  | some path => tree.loadSettings path
  | none => (tree.settingsIn Path.here).map fun settings? => settings?.getD Settings.absent

/-- Runs the program on a file tree. -/
def execute (arguments : Arguments) (surroundings : Surroundings) (tree : FileTree) :
    Completion × FileTree :=
  match Job.ofSettings arguments surroundings.clock (arguments.loadSettings tree) with
  | .error diagnosis => (.failed diagnosis, tree)
  | .ok job =>
    let run := job.scanner.runVia surroundings.writing tree surroundings.tag job.source job.output
      job.schemaVersion
    (job.conclude surroundings.logFilter? surroundings.stdout run.1, run.2)

end Arguments

/-- Runs the program on a file tree as its arguments ask. -/
def Invocation.execute (invocation : Invocation) (surroundings : Surroundings) (tree : FileTree) :
    Completion × FileTree :=
  match invocation with
  | .run arguments => arguments.execute surroundings tree
  | .help => (.told Help.full surroundings.stdout, tree)
  | .version => (.told Help.version surroundings.stdout, tree)
  | .misuse => (.misused, tree)

end ExportManifest
