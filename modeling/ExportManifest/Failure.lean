/-
**Why a run fails.**

Every failure ends a run. It names the stage that failed, the path it is about if there is one,
and, for the two stages that touch the source and the output, the fault beneath it.
-/

import ExportManifest.FileFault
import ExportManifest.Text.Quoted

namespace ExportManifest

/-- The stages of a run. -/
inductive Stage
  | config
  | arguments
  | read
  | detect
  | write
deriving DecidableEq, Repr

/-- The name of a stage in a diagnostic. -/
def Stage.label : Stage → Text
  | config => "config".toList
  | arguments => "arguments".toList
  | read => "read".toList
  | detect => "detect".toList
  | write => "write".toList

/-- What is wrong with a settings file. -/
inductive SettingsFault
  /-- It cannot be read. -/
  | unreadable (fault : FileFault)
  /-- It is no TOML document, or a setting has the wrong type. -/
  | malformed
deriving DecidableEq, Repr

/-- A settings fault in words. -/
def SettingsFault.text : SettingsFault → Text
  | unreadable fault => fault.text
  | malformed => "the settings cannot be understood".toList

/-- Why a run fails. -/
inductive Failure
  /-- The source cannot be read. -/
  | unreadableSource (path : Text) (fault : FileFault)
  /-- No line of the source binds a macro to the attribute. -/
  | noExportMacro (path exportAttribute : Text)
  /-- The manifest cannot be written. -/
  | unwritableOutput (path : Text) (fault : FileFault)
  /-- The schema version is no 64-bit decimal integer; the value is as it was given. -/
  | invalidSchemaVersion (value : Text)
  /-- The settings cannot be loaded. -/
  | unusableSettings (path : Text) (fault : SettingsFault)
deriving DecidableEq, Repr

namespace Failure

/-- The stage that failed. -/
def stage : Failure → Stage
  | unreadableSource .. => .read
  | noExportMacro .. => .detect
  | unwritableOutput .. => .write
  | invalidSchemaVersion .. => .arguments
  | unusableSettings .. => .config

/-- The path a failure is about. -/
def path? : Failure → Option Text
  | unreadableSource path _ => some path
  | noExportMacro path _ => some path
  | unwritableOutput path _ => some path
  | invalidSchemaVersion _ => none
  | unusableSettings path _ => some path

/-- The fault beneath a failure, told apart from it. -/
def fault? : Failure → Option FileFault
  | unreadableSource _ fault => some fault
  | unwritableOutput _ fault => some fault
  | _ => none

/-- A failure in words. -/
def message : Failure → Text
  | unreadableSource path fault =>
    "Failed to open source file ".toList ++ path ++ ": ".toList ++ fault.text
  | noExportMacro path exportAttribute =>
    "No ".toList ++ exportAttribute ++ " export macro found in source file ".toList ++ path
  | unwritableOutput path fault =>
    "Failed to write output file ".toList ++ path ++ ": ".toList ++ fault.text
  | invalidSchemaVersion value =>
    "Invalid schema version ".toList ++ value.quote ++ ": expected a base-10 integer".toList
  | unusableSettings path fault =>
    "Config error at ".toList ++ path ++ ": ".toList ++ fault.text

end Failure

end ExportManifest
