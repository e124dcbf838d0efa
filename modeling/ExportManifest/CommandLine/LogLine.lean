/-
**Events as lines of a log.**

Each event is written as one JSON object on a line: the moment, the level, the fields and the
target.
-/

import ExportManifest.Event
import ExportManifest.Json.Written
import ExportManifest.Text.Decimal

namespace ExportManifest

/-- The value of a field as JSON. -/
def FieldValue.json : FieldValue → Text
  | text value => Json.writeString value
  | count value => Decimal.ofNat value

/-- Members as a JSON object. -/
def Json.writeObject (members : List (Text × Text)) : Text :=
  ['\x7b'] ++
    [','].intercalate (members.map fun member => writeString member.1 ++ [':'] ++ member.2) ++
    ['\x7d']

/-- An event as the line of a log, told at the given moment. -/
def Event.logLine (event : Event) (moment : Text) : Text :=
  Json.writeObject
    [("timestamp".toList, Json.writeString moment),
      ("level".toList, Json.writeString event.level.label),
      ("fields".toList,
        Json.writeObject (event.fields.map fun field => (field.1, field.2.json))),
      ("target".toList, Json.writeString event.target)] ++ ['\n']

end ExportManifest
