/-
**The command line.**

This layer asks the operating system and decides nothing: it reads the arguments, the settings, the
source and the time, hands them to the library, gives it the files of the machine as a storage to
publish to, and prints what the library says.
-/

import ExportManifest.CommandLine.Help
import ExportManifest.CommandLine.LogLine
import ExportManifest.CommandLine.Program
import ExportManifest.Timestamp
import Std.Time.Format

namespace ExportManifest.Main

/-- The number that the operating system gave for an error. -/
def code? : IO.Error → Option UInt32
  | .alreadyExists _ code _ => some code
  | .otherError code _ => some code
  | .resourceBusy code _ => some code
  | .resourceVanished code _ => some code
  | .unsupportedOperation code _ => some code
  | .hardwareFault code _ => some code
  | .unsatisfiedConstraints code _ => some code
  | .illegalOperation code _ => some code
  | .protocolError code _ => some code
  | .timeExpired code _ => some code
  | .interrupted _ code _ => some code
  | .noFileOrDirectory _ code _ => some code
  | .invalidArgument _ code _ => some code
  | .permissionDenied _ code _ => some code
  | .resourceExhausted _ code _ => some code
  | .inappropriateType _ code _ => some code
  | .noSuchThing _ code _ => some code
  | .unexpectedEof => none
  | .userError _ => none

/-- An error of the operating system as a fault. Some calls give the number with a minus sign. -/
def faultOf (error : IO.Error) : FileFault :=
  match code? error with
  | some code => .system { code := Int.ofNat code.toInt32.toInt.natAbs }
  | none => .other error.toString.toList

/-- Runs an action and gives the fault that ended it, if any. -/
def attempt {α : Type} (action : IO α) : IO (Except FileFault α) := do
  match ← action.toBaseIO with
  | .ok value => return .ok value
  | .error error => return .error (faultOf error)

/-- A text as the system takes it. -/
def string (text : Text) : String :=
  String.ofList text

/-- The bytes of a file. -/
def readFile (path : Text) : IO (Except FileFault (List UInt8)) :=
  attempt do
    let handle ← IO.FS.Handle.mk (string path) .read
    let bytes ← handle.readBinToEnd
    return bytes.toList

/-- Whether a path leads to an entry. -/
def present (path : Text) : IO Bool := do
  match ← (IO.FS.realPath (string path)).toBaseIO with
  | .ok _ => return true
  | .error _ => return false

/-- A file that is written, and its path. -/
structure OpenFile where
  path : Text
  handle : IO.FS.Handle

/-- The files of the machine as a storage. Bringing a file to the device goes as far as handing its
bytes over to the system. -/
def storage : Storage IO OpenFile where
  create path := attempt do
    let handle ← IO.FS.Handle.mk (string path) .write
    return { path, handle }
  sync file := attempt file.handle.flush
  rename file path := attempt (IO.FS.rename (string file.path) (string path))
  remove file := do
    let _ ← attempt (IO.FS.removeFile (string file.path))

/-- Publishes bytes at a path. -/
def publish (path tag : Text) (bytes : List UInt8) : IO (Except FileFault Unit) :=
  storage.publish path tag fun file => attempt (file.handle.write (ByteArray.mk bytes.toArray))

/-- The local time now. -/
def localTime : IO Text := do
  let now ← Std.Time.Timestamp.now
  let seconds := now.toSecondsSinceUnixEpoch.val
  match ← attempt Std.Time.Database.defaultGetLocalZoneRules with
  | .ok rules => return Timestamp.render seconds ((rules.timezoneAt now).offset.second.val / 60)
  | .error _ => return Timestamp.render seconds 0

/-- The number of this process, which names its entry among the processes of the system. -/
def processNumber : IO Nat := do
  match ← attempt (IO.FS.realPath "/proc/self") with
  | .ok entry =>
    let digits := (entry.toString.toList.reverse.takeWhile Char.isDigit).reverse
    return Decimal.value digits
  | .error _ => return 0

/-- The tag of this run. -/
def newTag : IO Text := do
  let moment ← Std.Time.Timestamp.now
  return FileTree.runTag (← processNumber) moment.toNanosecondsSinceUnixEpoch.val.toNat

/-- The settings that the arguments ask for. -/
def loadSettings (arguments : Arguments) : IO (Except Failure Settings) := do
  let file := arguments.settingsFile
  if file.2 || (← present file.1) then
    return Settings.ofContent file.1 (← readFile file.1)
  else
    return .ok Settings.absent

/-- Scans the source of a job and writes the manifest. -/
def runJob (job : Job) : IO Scan := do
  let scan := job.scanner.scanContent job.source (← readFile job.source) job.schemaVersion
  match scan.result with
  | .error _ => return scan
  | .ok outcome =>
    let writing ← publish job.output (← newTag) (job.scanner.fileBytes outcome)
    return scan.written outcome job.output writing

/-- Prints how the program ends and gives its exit code. -/
def finish (completion : Completion) : IO UInt32 := do
  let moment ← localTime
  let stderr ← IO.getStderr
  for event in completion.logs do
    stderr.putStr (string (event.logLine moment))
  let stdout ← IO.getStdout
  let printed ← attempt do
    stdout.write (ByteArray.mk completion.stdout.toArray)
    stdout.flush
  match completion.diagnosis?, printed with
  | some diagnosis, _ =>
    stderr.putStr (string diagnosis.text)
    return UInt32.ofNat completion.exitCode
  | none, .error fault =>
    stderr.putStr (string (Diagnosis.text (.report fault)))
    return 1
  | none, .ok () => return UInt32.ofNat completion.exitCode

/-- Prints a text, as far as that goes. -/
def tell (text : Text) : IO Unit := do
  let _ ← attempt (IO.print (string text))

/-- Runs the program with its arguments. -/
def execute (arguments : Arguments) : IO UInt32 := do
  let clock := Clock.fixed (← localTime)
  match Job.ofSettings arguments clock (← loadSettings arguments) with
  | .error diagnosis => finish (.failed diagnosis)
  | .ok job =>
    let filter? := (← IO.getEnv "RUST_LOG").map String.toList
    finish (job.conclude filter? Sink.unlimited (← runJob job))

end ExportManifest.Main

/-- The entry of the program. -/
def main (arguments : List String) : IO UInt32 := do
  match ExportManifest.Invocation.ofArguments (arguments.map String.toList) with
  | .run arguments => ExportManifest.Main.execute arguments
  | .help =>
    ExportManifest.Main.tell ExportManifest.Help.full
    return 0
  | .version =>
    ExportManifest.Main.tell ExportManifest.Help.version
    return 0
  | .misuse =>
    IO.eprint (String.ofList ExportManifest.Help.usage)
    return 2
