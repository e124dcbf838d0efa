/-
**The exported functions of a source.**

Every line that begins with the export macro is a declaration: what follows the macro either holds
a signature, or the line is skipped: its number is told and kept. Other lines play no part. Order
and repetitions are those of the source.
-/

import ExportManifest.Event
import ExportManifest.Signature

namespace ExportManifest

/-- What the lines of a source declare. -/
structure Extraction where
  /-- The signatures, in line order. -/
  functions : List Signature
  /-- The numbers of the lines that begin with the macro and hold no signature. -/
  skipped : List Nat
deriving DecidableEq, Repr

namespace Extraction

/-- Reads the lines, the first of which has the given number, and tells of each line that it skips
on the way. -/
def readFrom (exportMacro : Text) : Nat → List Text → Extraction × List Event
  | _, [] => ({ functions := [], skipped := [] }, [])
  | number, line :: later =>
    let reading := readFrom exportMacro (number + 1) later
    match exportMacro.isPrefixOf? line with
    | none => reading
    | some declaration =>
      match Signature.parse? declaration with
      | some signature =>
        ({ reading.1 with functions := signature :: reading.1.functions }, reading.2)
      | none =>
        ({ reading.1 with skipped := number :: reading.1.skipped },
          .lineSkipped number :: reading.2)

/-- Reads the lines of a source, numbered from 1. -/
def read (exportMacro : Text) (lines : List Text) : Extraction × List Event :=
  readFrom exportMacro 1 lines

/-- What the lines of a source declare. -/
def ofLines (exportMacro : Text) (lines : List Text) : Extraction :=
  (read exportMacro lines).1

/-- What extraction tells when it is done: the totals. -/
def finishEvent (exportMacro : Text) (extraction : Extraction) : Event :=
  .extractionFinished exportMacro extraction.functions.length extraction.skipped.length

end Extraction

end ExportManifest
