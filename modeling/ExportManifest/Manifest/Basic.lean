/-
**Manifests.**

A manifest lists the exported functions of one source, with the version of the schema it follows
and the moment it was made. A schema version is given as text: `SchemaVersion.parse` reads a
64-bit decimal integer between optional blanks.
-/

import ExportManifest.Failure
import ExportManifest.Signature
import ExportManifest.Text.Blank

namespace ExportManifest

/-- The exported functions of one source. -/
structure Manifest where
  schemaVersion : Int64
  /-- The source, as it was named. -/
  source : Text
  timestamp : Text
  functions : List Signature
deriving DecidableEq

/-- The number of functions listed. -/
def Manifest.count (manifest : Manifest) : Nat :=
  manifest.functions.length

/-- Reads a schema version; the failure carries the text as it was given. -/
def SchemaVersion.parse (value : Text) : Except Failure Int64 :=
  match Decimal.toInt64? value.trim with
  | some version => .ok version
  | none => .error (.invalidSchemaVersion value)

end ExportManifest
