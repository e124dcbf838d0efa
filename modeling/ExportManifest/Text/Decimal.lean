/-
**Decimal integers.**

`Decimal.ofInt` writes an integer in base ten; `Decimal.toInt?` reads an optional sign and one or
more ASCII digits, leading zeros included, as the integer they denote. `Decimal.toInt64?` keeps
the integers that fit in 64 bits: the value is computed exactly before it is compared with the
limits, so no digit string is too long to be judged.
-/

import ExportManifest.Text.Lines

namespace ExportManifest.Decimal

/-- The base ten digits of a natural number, without leading zeros. -/
def ofNat (n : Nat) : Text :=
  Nat.toDigits 10 n

/-- An integer in base ten, with a minus sign if it is negative. -/
def ofInt : Int → Text
  | .ofNat n => ofNat n
  | .negSucc n => '-' :: ofNat (n + 1)

/-- The number denoted by a string of digits. -/
def value (digits : Text) : Nat :=
  Nat.ofDigitChars 10 digits 0

/-- One or more ASCII digits, read in base ten. -/
def toNat? (digits : Text) : Option Nat :=
  if !digits.isEmpty && digits.all Char.isDigit then some (value digits) else none

/-- One optional sign and one or more ASCII digits, read in base ten. -/
def toInt? : Text → Option Int
  | '-' :: digits => (toNat? digits).map fun n => -(n : Int)
  | '+' :: digits => (toNat? digits).map fun n => (n : Int)
  | digits => (toNat? digits).map fun n => (n : Int)

/-- The least 64-bit integer. -/
def leastInt64 : Int := -9223372036854775808

/-- The greatest 64-bit integer. -/
def greatestInt64 : Int := 9223372036854775807

/-- Whether an integer fits in 64 bits. -/
def fitsInt64 (n : Int) : Bool :=
  leastInt64 ≤ n && n ≤ greatestInt64

/-- The 64-bit integer equal to an integer, if there is one. -/
def int64? (n : Int) : Option Int64 :=
  if fitsInt64 n then some (Int64.ofInt n) else none

/-- One optional sign and one or more ASCII digits that denote a 64-bit integer. -/
def toInt64? (text : Text) : Option Int64 :=
  (toInt? text).bind int64?

end ExportManifest.Decimal
