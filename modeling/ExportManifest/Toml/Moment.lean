/-
**Dates and times in TOML.**

A moment is a date, a time of day, or a date, one of `T`, `t` and a space, a time, and an optional
offset from universal time. The calendar is checked: month, day of the month with leap years, hour,
minute, and a second up to 60. Where no time follows the separator the date stands alone. The
readers give only the text after a moment, because nothing in a settings file asks for its value.
-/

import ExportManifest.Text.Decimal

namespace ExportManifest.Toml

/-- A number of exactly the given count of digits that lies between two limits. -/
def readFixed (count low high : Nat) (text : Text) : Option (Nat × Text) :=
  let digits := text.take count
  if digits.length = count && digits.all Char.isDigit then
    let value := Decimal.value digits
    if low ≤ value ∧ value ≤ high then some (value, text.drop count) else none
  else none

/-- The text after the given character at its front. -/
def readMark (mark : Char) : Text → Option Text
  | [] => none
  | c :: rest => if c = mark then some rest else none

/-- Whether a year has a 29 February. -/
def isLeapYear (year : Nat) : Bool :=
  year % 4 == 0 && (year % 100 != 0 || year % 400 == 0)

/-- The number of days of a month. -/
def daysOfMonth (year month : Nat) : Nat :=
  if month = 2 then (if isLeapYear year then 29 else 28)
  else if month = 4 ∨ month = 6 ∨ month = 9 ∨ month = 11 then 30
  else 31

/-- The text after a date. -/
def readDate (text : Text) : Option Text := do
  let (year, rest) ← readFixed 4 0 9999 text
  let rest ← readMark '-' rest
  let (month, rest) ← readFixed 2 1 12 rest
  let rest ← readMark '-' rest
  let (_, rest) ← readFixed 2 1 (daysOfMonth year month) rest
  return rest

/-- The text after a fraction of a second, if there is one. -/
def skipFraction : Text → Text
  | '.' :: c :: rest => if c.isDigit then rest.dropWhile Char.isDigit else '.' :: c :: rest
  | text => text

/-- The text after a time of day. -/
def readTime (text : Text) : Option Text := do
  let (_, rest) ← readFixed 2 0 23 text
  let rest ← readMark ':' rest
  let (_, rest) ← readFixed 2 0 59 rest
  let rest ← readMark ':' rest
  let (_, rest) ← readFixed 2 0 60 rest
  return skipFraction rest

/-- The text after an offset in hours and minutes, after its sign. -/
def readHoursMinutes (text : Text) : Option Text := do
  let (_, rest) ← readFixed 2 0 23 text
  let rest ← readMark ':' rest
  let (_, rest) ← readFixed 2 0 59 rest
  return rest

/-- The text after an offset, if there is one. -/
def skipOffset : Text → Text
  | [] => []
  | c :: rest =>
    if c == 'Z' || c == 'z' then rest
    else if c == '+' || c == '-' then (readHoursMinutes rest).getD (c :: rest)
    else c :: rest

/-- The text after the time and offset that may follow a date. -/
def skipTime : Text → Text
  | [] => []
  | c :: rest =>
    if c == 'T' || c == 't' || c == ' ' then
      match readTime rest with
      | some rest => skipOffset rest
      | none => c :: rest
    else c :: rest

/-- The text after a moment. -/
def readMoment (text : Text) : Option Text :=
  match readDate text with
  | some rest => some (skipTime rest)
  | none => readTime text

end ExportManifest.Toml
