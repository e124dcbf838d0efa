/-
**Why the program ends in failure.**

A diagnosis says what could not be done and lists the causes, from the failure down to the fault
beneath it. A single cause is indented; several are numbered from 0. Further lines of a cause are
indented as far as its first.
-/

import ExportManifest.Failure

namespace ExportManifest

/-- Why the program ends in failure. -/
inductive Diagnosis
  /-- The settings could not be loaded. -/
  | settings (failure : Failure)
  /-- A stage of the run on the given source failed. -/
  | stage (source : Text) (failure : Failure)
  /-- The report could not be written. -/
  | report (fault : FileFault)
deriving DecidableEq, Repr

namespace Diagnosis

/-- What could not be done. -/
def context : Diagnosis → Text
  | settings _ => "Failed to load configuration".toList
  | stage source failure => failure.stage.label ++ " stage failed for ".toList ++ source
  | report _ => "Failed to print summary".toList

/-- The causes, each beneath the one before. -/
def causes : Diagnosis → List Text
  | settings failure => failure.message :: failure.fault?.toList.map FileFault.text
  | stage _ failure => failure.message :: failure.fault?.toList.map FileFault.text
  | report fault => [fault.text]

/-- A cause behind a lead, with its further lines indented by the given number of spaces. -/
def indentCause (lead : Text) (spaces : Nat) (cause : Text) : Text :=
  lead ++ ('\n' :: List.replicate spaces ' ').intercalate (cause.pieces '\n')

/-- The causes as lines, numbered from the given number on. -/
def numberedCauses : Nat → List Text → List Text
  | _, [] => []
  | number, cause :: later =>
    let label := Decimal.ofNat number
    let lead := List.replicate (5 - label.length) ' ' ++ label ++ ": ".toList
    indentCause lead 7 cause :: numberedCauses (number + 1) later

/-- The lines of the causes: a single one is not numbered. -/
def causeLines : List Text → List Text
  | [cause] => [indentCause "    ".toList 4 cause]
  | causes => numberedCauses 0 causes

/-- The whole diagnosis. -/
def text (diagnosis : Diagnosis) : Text :=
  "Error: ".toList ++ diagnosis.context ++ "\n\nCaused by:\n".toList ++
    (causeLines diagnosis.causes).flatMap fun line => line ++ ['\n']

end Diagnosis

end ExportManifest
