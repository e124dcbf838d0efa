/-
**Why a file operation fails.**

A `FileFault` is a refusal of the operating system or one of the few faults found before or after
asking the system.
-/

import ExportManifest.SystemError

namespace ExportManifest

/-- Why a file operation fails. -/
inductive FileFault
  /-- The operating system refused. -/
  | system (error : SystemError)
  /-- The path to write to ends in no name. -/
  | noFileName
  /-- The bytes read are not UTF-8. -/
  | notUtf8
  /-- The path contains the character U+0000. -/
  | zeroInPath
  /-- Some other cause, in words. -/
  | other (words : Text)
deriving DecidableEq, Repr

/-- A fault in words. -/
def FileFault.text : FileFault → Text
  | system error => error.text
  | noFileName => "output path has no file name".toList
  | notUtf8 => "stream did not contain valid UTF-8".toList
  | zeroInPath => "file name contained an unexpected NUL byte".toList
  | other words => words

end ExportManifest
