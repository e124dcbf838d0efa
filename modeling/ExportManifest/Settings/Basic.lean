/-
**Settings.**

Settings come from a TOML file and each of them may be absent. `Settings.parse?` reads the three
that are known and passes over all others; a known one of the wrong type is refused. The accessors
fill in the defaults, and an empty export attribute counts as absent.
-/

import ExportManifest.Failure
import ExportManifest.Toml.Document

namespace ExportManifest

/-- How the manifest is written. -/
structure OutputSettings where
  /-- Spaces for each level of nesting. -/
  indent? : Option Nat
deriving DecidableEq, Repr

/-- The settings of a run, as far as they are given. -/
structure Settings where
  /-- The attribute that the export macro is bound to. -/
  exportAttribute? : Option Text
  /-- Whether a run tells more than one line. -/
  verbose? : Option Bool
  output? : Option OutputSettings
deriving DecidableEq, Repr

namespace Settings

/-- No setting is given. -/
def absent : Settings :=
  { exportAttribute? := none, verbose? := none, output? := none }

/-- The name of the settings file of a directory. -/
def fileName : Text :=
  "dllscan.toml".toList

/-- The attribute that exports a declaration where no other is given. -/
def defaultExportAttribute : Text :=
  "__declspec(dllexport)".toList

/-- Spaces for each level of nesting where no other number is given. -/
def defaultIndent : Nat := 3

/-- The attribute to look for. -/
def exportAttribute (settings : Settings) : Text :=
  match settings.exportAttribute? with
  | some (c :: rest) => c :: rest
  | _ => defaultExportAttribute

/-- Whether a run tells more than one line. -/
def verbose (settings : Settings) : Bool :=
  settings.verbose?.getD false

/-- Spaces for each level of nesting. -/
def indent (settings : Settings) : Nat :=
  (settings.output?.bind OutputSettings.indent?).getD defaultIndent

/-! ### Reading -/

/-- A setting that may be absent, read by `decode` if it is present. -/
def optional? {α : Type} (decode : Toml.Node → Option α) (key : String)
    (members : Toml.Members) : Option (Option α) :=
  match members.find? key.toList with
  | none => some none
  | some node => (decode node).map some

/-- A string. -/
def text? : Toml.Node → Option Text
  | .string content => some content
  | _ => none

/-- A boolean. -/
def bool? : Toml.Node → Option Bool
  | .boolean value => some value
  | _ => none

/-- An integer that is not negative. -/
def nat? : Toml.Node → Option Nat
  | .integer (.ofNat n) => some n
  | _ => none

/-- The settings of the output: a table, or an array with the indentation as its first item. A
moment is taken for a table without any of the known settings. -/
def outputSettings? : Toml.Node → Option OutputSettings
  | .table _ members => (optional? nat? "indent" members).map fun indent? => { indent? }
  | .inline members => (optional? nat? "indent" members).map fun indent? => { indent? }
  | .array (first :: _) => (nat? first).map fun indent => { indent? := some indent }
  | .moment => some { indent? := none }
  | _ => none

/-- The settings in a table. -/
def ofMembers? (members : Toml.Members) : Option Settings := do
  let exportAttribute? ← optional? text? "export_attribute" members
  let verbose? ← optional? bool? "verbose" members
  let output? ← optional? outputSettings? "output" members
  return { exportAttribute?, verbose?, output? }

/-- The settings in a document. -/
def parse? (document : Text) : Option Settings :=
  (Toml.parse? document).bind ofMembers?

/-- The settings in a document; the path is only named in the failure. -/
def parse (path : Text) (document : Text) : Except Failure Settings :=
  match parse? document with
  | some settings => .ok settings
  | none => .error (.unusableSettings path .malformed)

end Settings

end ExportManifest
