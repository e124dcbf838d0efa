/-
**Hexadecimal digits.**

Digits are written in lower case and read in either case.
-/

import ExportManifest.Text.Lines

namespace ExportManifest.Hexadecimal

/-- The digit for the last four bits of a number. -/
def digit (value : Nat) : Char :=
  Nat.digitChar (value % 16)

/-- The value of a digit. -/
def value? (c : Char) : Option Nat :=
  if '0' ≤ c ∧ c ≤ '9' then some (c.toNat - '0'.toNat)
  else if 'a' ≤ c ∧ c ≤ 'f' then some (c.toNat - 'a'.toNat + 10)
  else if 'A' ≤ c ∧ c ≤ 'F' then some (c.toNat - 'A'.toNat + 10)
  else none

end ExportManifest.Hexadecimal
