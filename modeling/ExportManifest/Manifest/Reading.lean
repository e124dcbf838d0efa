/-
**Reading a manifest back.**

A manifest and each of its functions is a JSON object with known members, in any order, each
exactly once; members of other names are passed over. Either may also be an array of the values
of its members in the order in which they are written. `Manifest.parse?` reads a whole document.
-/

import ExportManifest.Json.Reader
import ExportManifest.Manifest.Basic

namespace ExportManifest

namespace Json

/-- The content of a string. -/
def text? : Json → Option Text
  | string content => content
  | _ => none

/-- A number that is written as a 64-bit integer. -/
def int64? : Json → Option Int64
  | number numeral => numeral.int64?
  | _ => none

/-- The items of an array. -/
def items? : Json → Option (List Json)
  | array items => some items
  | _ => none

/-- The values of all members with the given key. -/
def membersNamed (key : Text) (members : List (Option Text × Json)) : List Json :=
  members.filterMap fun member => if member.1 = some key then some member.2 else none

/-- The value of the one member with the given key. -/
def only? (key : Text) (members : List (Option Text × Json)) : Option Json :=
  match membersNamed key members with
  | [value] => some value
  | _ => none

/-- The values of a record with the given keys: the members of an object, each present once and
every key a text, or the items of an array of the same length. -/
def record? (keys : List Text) : Json → Option (List Json)
  | object members =>
    if members.all fun member => member.1.isSome then keys.mapM fun key => only? key members
    else none
  | array items => if items.length = keys.length then some items else none
  | _ => none

end Json

/-- The members of a function, in the order in which they are written. -/
def Signature.keys : List Text :=
  ["name".toList, "return_type".toList, "args".toList]

/-- A function from its JSON value. -/
def Signature.ofJson? (json : Json) : Option Signature :=
  match Json.record? keys json with
  | some [name, returnType, args] => do
    let name ← name.text?
    let returnType ← returnType.text?
    let args ← args.text?
    return { name, returnType, args }
  | _ => none

namespace Manifest

/-- The members of a manifest, in the order in which they are written. -/
def keys : List Text :=
  ["schema_version".toList, "source".toList, "timestamp".toList, "exported_functions".toList]

/-- A manifest from its JSON value. -/
def ofJson? (json : Json) : Option Manifest :=
  match Json.record? keys json with
  | some [version, source, timestamp, functions] => do
    let schemaVersion ← version.int64?
    let source ← source.text?
    let timestamp ← timestamp.text?
    let items ← functions.items?
    let functions ← items.mapM Signature.ofJson?
    return { schemaVersion, source, timestamp, functions }
  | _ => none

/-- The manifest written in a JSON document. -/
def parse? (text : Text) : Option Manifest :=
  (Json.parse? text).bind ofJson?

end Manifest

end ExportManifest
