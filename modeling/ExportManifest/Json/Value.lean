/-
**JSON values.**

A value keeps what its text says and nothing about how it was spelled. Numbers keep their parts
as written, because `1`, `1.0` and `1e0` are told apart by readers. A string whose escapes leave
half of a surrogate pair alone is well formed but has no content as a text.
-/

import ExportManifest.Text.Decimal

namespace ExportManifest.Json

/-- A number as it is written: sign, whole part, and the texts of its fraction (from the point
on) and of its exponent (from the letter on), empty where there is none. -/
structure Numeral where
  negative : Bool
  whole : Text
  fraction : Text
  exponent : Text
deriving DecidableEq, Repr

/-- The text of a number. -/
def Numeral.text (numeral : Numeral) : Text :=
  (if numeral.negative then ['-'] else []) ++ numeral.whole ++ numeral.fraction ++ numeral.exponent

/-- The 64-bit integer that a number denotes. A fraction or an exponent makes it no integer,
whatever its value, and so does the minus sign of `-0`. -/
def Numeral.int64? (numeral : Numeral) : Option Int64 :=
  if !numeral.fraction.isEmpty || !numeral.exponent.isEmpty then none
  else
    let magnitude := Decimal.value numeral.whole
    if numeral.negative then
      if magnitude = 0 then none else Decimal.int64? (-(magnitude : Int))
    else
      Decimal.int64? magnitude

end ExportManifest.Json

namespace ExportManifest

/-- A JSON value. Members of an object are in the order of the text and may repeat a key. -/
inductive Json
  | null
  | bool (value : Bool)
  | number (numeral : Json.Numeral)
  | string (content : Option Text)
  | array (items : List Json)
  | object (members : List (Option Text × Json))

end ExportManifest
