/-
**Keys and values of a TOML document.**

A key is one or more names, bare or quoted, with dots between them. A value is a string, number,
moment, boolean, array or inline table. An array may go over several lines, hold comments and end
in a comma; an inline table stands on one line. Arrays and inline tables nest up to a limit.
-/

import ExportManifest.Toml.Moment
import ExportManifest.Toml.Numeral
import ExportManifest.Toml.Quotation

namespace ExportManifest.Toml

/-- A key has fewer names than this, and a value stands inside fewer arrays and inline tables. -/
def nestingLimit : Nat := 80

/-- The text after the gaps at its front. -/
def skipGaps (text : Text) : Text :=
  text.dropWhile Text.isGap

/-- The text after gaps, newlines and comments; inside a comment, the text after its end and
what follows. -/
def skipLinesWith : Bool → Text → Text
  | _, [] => []
  | true, c :: rest =>
    if c = '\n' then skipLinesWith false rest
    else if isVisible c then skipLinesWith true rest
    else c :: rest
  | false, c :: rest =>
    if Text.isGap c || c == '\n' then skipLinesWith false rest
    else if c = '#' then skipLinesWith true rest
    else c :: rest

/-- The text after gaps, newlines and comments. -/
def skipLines (text : Text) : Text :=
  skipLinesWith false text

/-! ### Keys -/

/-- A character of a bare name. -/
def isBareChar (c : Char) : Bool :=
  c.isAlphanum || c == '_' || c == '-'

/-- One name of a key. -/
def readName (text : Text) : Option (Text × Text) :=
  match text with
  | '"' :: _ => readLineString text
  | '\'' :: _ => readLineString text
  | _ =>
    let name := text.takeWhile isBareChar
    if name.isEmpty then none else some (name, text.dropWhile isBareChar)

/-- The names of a key with gaps around them. Each name takes a step. -/
def readNames : Nat → Text → Option (List Text × Text)
  | 0, _ => none
  | steps + 1, text => do
    let (name, rest) ← readName (skipGaps text)
    match skipGaps rest with
    | '.' :: rest =>
      let (names, rest) ← readNames steps rest
      return (name :: names, rest)
    | rest => return ([name], rest)

/-- A key at the front of a text: the names before its last one, the last one, and the rest. -/
def readKey (text : Text) : Option (List Text × Text × Text) := do
  let (names, rest) ← readNames (nestingLimit - 1) text
  let last ← names.getLast?
  return (names.dropLast, last, rest)

/-! ### Values -/

/-- A word at the front of a text, read as a boolean. -/
def readBoolean (word : String) (value : Bool) (text : Text) : Option (Node × Text) :=
  (word.toList.isPrefixOf? text).map fun rest => (.boolean value, rest)

/-- A moment or a number at the front of a text. -/
def readMomentOrNumber (text : Text) : Option (Node × Text) :=
  match readMoment text with
  | some rest => some (.moment, rest)
  | none => readNumber text

mutual

/-- A value at the front of a text, where `depth` more arrays and inline tables may open. -/
def readValue : Nat → Nat → Text → Option (Node × Text)
  | 0, _, _ => none
  | steps + 1, depth, text =>
    match text with
    | '"' :: _ => (readString text).map fun reading => (.string reading.1, reading.2)
    | '\'' :: _ => (readString text).map fun reading => (.string reading.1, reading.2)
    | '[' :: rest =>
      match depth with
      | 0 => none
      | depth + 1 =>
        (readItems steps depth rest).map fun reading => (.array reading.1, reading.2)
    | '\x7b' :: rest =>
      match depth with
      | 0 => none
      | depth + 1 =>
        match skipGaps rest with
        | '\x7d' :: rest => some (.inline [], rest)
        | rest => (readPairs steps depth [] rest).map fun reading => (.inline reading.1, reading.2)
    | 't' :: _ => readBoolean "true" true text
    | 'f' :: _ => readBoolean "false" false text
    | _ => readMomentOrNumber text

/-- The items of an array after its bracket or after a comma, and the text after the array. -/
def readItems : Nat → Nat → Text → Option (List Node × Text)
  | 0, _, _ => none
  | steps + 1, depth, text =>
    match skipLines text with
    | ']' :: rest => some ([], rest)
    | text => do
      let (item, rest) ← readValue steps depth text
      match skipLines rest with
      | ']' :: rest => return ([item], rest)
      | ',' :: rest =>
        let (later, rest) ← readItems steps depth rest
        return (item :: later, rest)
      | _ => none

/-- The pairs of an inline table that come after the given members, and the text after it. -/
def readPairs : Nat → Nat → Members → Text → Option (Members × Text)
  | 0, _, _, _ => none
  | steps + 1, depth, members, text => do
    let (path, key, rest) ← readKey text
    match rest with
    | '=' :: rest =>
      let (node, rest) ← readValue steps depth (skipGaps rest)
      let members ← members.insert? path key node
      match skipGaps rest with
      | '\x7d' :: rest => return (members, rest)
      | ',' :: rest => readPairs steps depth members rest
      | _ => none
    | _ => none

end

end ExportManifest.Toml
