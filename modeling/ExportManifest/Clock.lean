/-
**Clocks.**

A scan sees time only as the text of a reading, so a clock is the sequence of its readings and the
number of those already taken. A fixed clock gives one text for ever; a counting clock gives a
different text each time, which shows how often it was asked.
-/

import ExportManifest.Text.Decimal

namespace ExportManifest

/-- A clock: its readings in order, and how many of them have been taken. -/
structure Clock where
  readings : Nat → Text
  taken : Nat

namespace Clock

/-- The reading that the clock gives when asked. -/
def now (clock : Clock) : Text :=
  clock.readings clock.taken

/-- The clock after it was asked. -/
def next (clock : Clock) : Clock :=
  { clock with taken := clock.taken + 1 }

/-- The clock that always shows the given text. -/
def fixed (text : Text) : Clock :=
  { readings := fun _ => text, taken := 0 }

/-- The clock that shows the given text followed by 1, 2, 3, …. -/
def counting (text : Text) : Clock :=
  { readings := fun taken => text ++ Decimal.ofNat (taken + 1), taken := 0 }

end Clock

end ExportManifest
