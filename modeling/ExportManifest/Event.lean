/-
**What a scan tells about itself.**

Each step of a scan that is worth telling is an `Event`. An event has a level, a target (the part
of the program that tells it) and named fields; the fields carry everything it says, its message
first.
-/

import ExportManifest.Text.Lines

namespace ExportManifest

/-- How much an event matters. -/
inductive Level
  | error
  | warn
  | info
  | debug
  | trace
deriving DecidableEq, Repr

/-- Levels by rank: the more detailed, the higher. -/
def Level.rank : Level → Nat
  | error => 1
  | warn => 2
  | info => 3
  | debug => 4
  | trace => 5

/-- The name of a level in a log. -/
def Level.label : Level → Text
  | error => "ERROR".toList
  | warn => "WARN".toList
  | info => "INFO".toList
  | debug => "DEBUG".toList
  | trace => "TRACE".toList

/-- A step of a scan. Lines are numbered from 1. -/
inductive Event
  /-- The line defines the export macro of the given name. -/
  | macroDetected (line : Nat) (name : Text)
  /-- The line contains the attribute and is no definition. -/
  | attributeElsewhere (line : Nat)
  /-- The line begins with the macro and holds no signature. -/
  | lineSkipped (line : Nat)
  /-- All lines have been read. -/
  | extractionFinished (exportMacro : Text) (functions skipped : Nat)
  /-- The manifest stands in its place. -/
  | manifestWritten (source output : Text) (functions : Nat)
deriving DecidableEq, Repr

/-- The value of a field of an event. -/
inductive FieldValue
  | text (value : Text)
  | count (value : Nat)
deriving DecidableEq, Repr

namespace Event

/-- Only the written manifest matters to someone who did not ask for details. -/
def level : Event → Level
  | manifestWritten .. => .info
  | _ => .debug

/-- The part of the program that tells the event. -/
def target : Event → Text
  | macroDetected .. | attributeElsewhere .. => "dllscan_core::detect".toList
  | lineSkipped .. => "dllscan_core::extract".toList
  | extractionFinished .. | manifestWritten .. => "dllscan_core::builder".toList

/-- What the event says in words. -/
def message : Event → Text
  | macroDetected .. => "export macro detected".toList
  | attributeElsewhere .. => "attribute found outside a #define".toList
  | lineSkipped .. => "skipping line without a full signature".toList
  | extractionFinished .. => "signature extraction finished".toList
  | manifestWritten .. => "manifest written".toList

/-- The named values an event carries beside its message. -/
def details : Event → List (Text × FieldValue)
  | macroDetected line name =>
    [("line".toList, .count line), ("export_macro".toList, .text name)]
  | attributeElsewhere line => [("line".toList, .count line)]
  | lineSkipped line => [("line".toList, .count line)]
  | extractionFinished exportMacro functions skipped =>
    [("export_macro".toList, .text exportMacro), ("functions".toList, .count functions),
      ("skipped".toList, .count skipped)]
  | manifestWritten source output functions =>
    [("source".toList, .text source), ("output".toList, .text output),
      ("functions".toList, .count functions)]

/-- All fields of an event, its message first. -/
def fields (event : Event) : List (Text × FieldValue) :=
  ("message".toList, .text event.message) :: event.details

end Event

end ExportManifest
