/-
**Timestamps.**

`Timestamp.render` writes a moment as `YYYY-MM-DDThh:mm:ss±hh:mm`: the local date and time of day
to the second, and the offset of the local time from universal time. A moment is given in seconds
since the start of 1970 in universal time. The date follows from the number of the day by the
400-year cycle of the calendar, with years that begin in March so that a leap day comes last.
-/

import ExportManifest.Text.Decimal

namespace ExportManifest

/-- A date of the calendar. -/
structure Date where
  year : Int
  month : Nat
  day : Nat
deriving DecidableEq, Repr

/-- The date of the day with the given number, where 1 January 1970 is day 0. -/
def Date.ofDay (number : Int) : Date :=
  let shifted := number + 719468
  let cycle := Int.fdiv shifted 146097
  let dayOfCycle := (Int.fmod shifted 146097).toNat
  let yearOfCycle :=
    (dayOfCycle - dayOfCycle / 1460 + dayOfCycle / 36524 - dayOfCycle / 146096) / 365
  let dayOfYear := dayOfCycle - (365 * yearOfCycle + yearOfCycle / 4 - yearOfCycle / 100)
  let monthFromMarch := (5 * dayOfYear + 2) / 153
  let month := if monthFromMarch < 10 then monthFromMarch + 3 else monthFromMarch - 9
  { year := yearOfCycle + cycle * 400 + (if month ≤ 2 then 1 else 0)
    month
    day := dayOfYear - (153 * monthFromMarch + 2) / 5 + 1 }

namespace Timestamp

/-- A number with zeros in front up to the given count of digits. -/
def padded (count : Nat) (n : Nat) : Text :=
  let digits := Decimal.ofNat n
  List.replicate (count - digits.length) '0' ++ digits

/-- An offset in minutes, as hours and minutes with a sign. -/
def renderOffset (minutes : Int) : Text :=
  (if minutes < 0 then ['-'] else ['+']) ++ padded 2 (minutes.natAbs / 60) ++ [':'] ++
    padded 2 (minutes.natAbs % 60)

/-- A moment in local time, which is the given number of minutes ahead of universal time. -/
def render (seconds : Int) (offset : Int) : Text :=
  let here := seconds + offset * 60
  let date := Date.ofDay (Int.fdiv here 86400)
  let second := (Int.fmod here 86400).toNat
  padded 4 date.year.toNat ++ ['-'] ++ padded 2 date.month ++ ['-'] ++ padded 2 date.day ++ ['T'] ++
    padded 2 (second / 3600) ++ [':'] ++ padded 2 (second / 60 % 60) ++ [':'] ++
    padded 2 (second % 60) ++ renderOffset offset

end Timestamp

end ExportManifest
