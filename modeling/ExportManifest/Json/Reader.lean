/-
**Reading JSON.**

Each reader takes a text and gives what it read from the front of it, and the rest. The grammar is
strict: no comments, no trailing commas, no leading zeros, no raw control characters in strings,
and nothing but blanks around the one value of a document (`Json.parse?`).

Arrays and objects nest without a limit. The readers of values, items and members call each other
and stop by a step count; each step but one of two takes a character, so twice the length of the
text is more than any reading needs.
-/

import ExportManifest.Json.Value
import ExportManifest.Text.Hexadecimal

namespace ExportManifest.Json

/-! ### Blanks and digits -/

/-- The blanks of JSON. -/
def isBlank (c : Char) : Bool :=
  c == ' ' || c == '\t' || c == '\n' || c == '\r'

/-- The text after its leading blanks. -/
def skipBlanks (text : Text) : Text :=
  text.dropWhile isBlank

/-- The number written by four hexadecimal digits. -/
def hexQuad? (a b c d : Char) : Option Nat := do
  let a ← Hexadecimal.value? a
  let b ← Hexadecimal.value? b
  let c ← Hexadecimal.value? c
  let d ← Hexadecimal.value? d
  return ((a * 16 + b) * 16 + c) * 16 + d

/-! ### Strings -/

/-- What a string is made of: characters, and the code units that an escape writes by number. -/
inductive StringUnit
  | char (c : Char)
  | code (unit : Nat)
deriving DecidableEq, Repr

/-- The character of a one-letter escape. -/
def shortEscape? : Char → Option Char
  | '"' => some '"'
  | '\\' => some '\\'
  | '/' => some '/'
  | 'b' => some '\x08'
  | 'f' => some '\x0c'
  | 'n' => some '\n'
  | 'r' => some '\r'
  | 't' => some '\t'
  | _ => none

/-- A unit in front of those of a reading. -/
def consUnit (unit : StringUnit) (reading : Option (List StringUnit × Text)) :
    Option (List StringUnit × Text) :=
  reading.map fun reading => (unit :: reading.1, reading.2)

/-- The units of a string up to its closing quote, and the text after the quote. -/
def readUnits : Text → Option (List StringUnit × Text)
  | [] => none
  | '"' :: rest => some ([], rest)
  | '\\' :: 'u' :: a :: b :: c :: d :: rest =>
    match hexQuad? a b c d with
    | some unit => consUnit (.code unit) (readUnits rest)
    | none => none
  | '\\' :: letter :: rest =>
    match shortEscape? letter with
    | some c => consUnit (.char c) (readUnits rest)
    | none => none
  | c :: rest =>
    if c.toNat < 0x20 || c == '\\' then none else consUnit (.char c) (readUnits rest)

/-- The text that a list of units spells: two code units of a surrogate pair are one character,
and no unit of a pair may stand alone. -/
def spelled? : List StringUnit → Option Text
  | [] => some []
  | .char c :: rest => (spelled? rest).map (c :: ·)
  | .code high :: .code low :: rest =>
    if 0xd800 ≤ high ∧ high < 0xdc00 then
      if 0xdc00 ≤ low ∧ low < 0xe000 then
        (spelled? rest).map
          (Char.ofNat (0x10000 + (high - 0xd800) * 0x400 + (low - 0xdc00)) :: ·)
      else none
    else if 0xdc00 ≤ high ∧ high < 0xe000 then none
    else (spelled? (.code low :: rest)).map (Char.ofNat high :: ·)
  | .code unit :: rest =>
    if 0xd800 ≤ unit ∧ unit < 0xe000 then none
    else (spelled? rest).map (Char.ofNat unit :: ·)

/-- The content of a string after its opening quote, and the text after its closing quote. -/
def readString (text : Text) : Option (Option Text × Text) :=
  (readUnits text).map fun reading => (spelled? reading.1, reading.2)

/-! ### Numbers -/

/-- The whole part of a number: `0`, or digits that do not begin with `0`. -/
def readWhole (text : Text) : Option (Text × Text) :=
  match text with
  | '0' :: rest => some (['0'], rest)
  | _ =>
    let digits := text.takeWhile Char.isDigit
    if digits.isEmpty then none else some (digits, text.dropWhile Char.isDigit)

/-- The fraction of a number: nothing, or a point and one or more digits. -/
def readFraction : Text → Option (Text × Text)
  | '.' :: rest =>
    let digits := rest.takeWhile Char.isDigit
    if digits.isEmpty then none else some ('.' :: digits, rest.dropWhile Char.isDigit)
  | text => some ([], text)

/-- The sign of an exponent: nothing, `+` or `-`. -/
def readSign : Text → Text × Text
  | '+' :: rest => (['+'], rest)
  | '-' :: rest => (['-'], rest)
  | text => ([], text)

/-- The exponent of a number: nothing, or a letter, an optional sign and one or more digits. -/
def readExponent : Text → Option (Text × Text)
  | c :: rest =>
    if c == 'e' || c == 'E' then
      let (sign, rest) := readSign rest
      let digits := rest.takeWhile Char.isDigit
      if digits.isEmpty then none
      else some (c :: sign ++ digits, rest.dropWhile Char.isDigit)
    else some ([], c :: rest)
  | [] => some ([], [])

/-- A number without its sign. -/
def readUnsigned (negative : Bool) (text : Text) : Option (Numeral × Text) := do
  let (whole, rest) ← readWhole text
  let (fraction, rest) ← readFraction rest
  let (exponent, rest) ← readExponent rest
  return ({ negative, whole, fraction, exponent }, rest)

/-- A number. -/
def readNumeral : Text → Option (Numeral × Text)
  | '-' :: rest => readUnsigned true rest
  | text => readUnsigned false text

/-! ### Values -/

/-- A word at the front of a text, read as a value. -/
def readWord (word : String) (value : Json) (text : Text) : Option (Json × Text) :=
  (word.toList.isPrefixOf? text).map fun rest => (value, rest)

mutual

/-- A value at the front of a text. -/
def readValue : Nat → Text → Option (Json × Text)
  | 0, _ => none
  | steps + 1, text =>
    match text with
    | '"' :: rest => (readString rest).map fun reading => (.string reading.1, reading.2)
    | '[' :: rest =>
      match skipBlanks rest with
      | ']' :: rest => some (.array [], rest)
      | rest => (readItems steps rest).map fun reading => (.array reading.1, reading.2)
    | '\x7b' :: rest =>
      match skipBlanks rest with
      | '\x7d' :: rest => some (.object [], rest)
      | rest => (readMembers steps rest).map fun reading => (.object reading.1, reading.2)
    | 'n' :: _ => readWord "null" .null text
    | 't' :: _ => readWord "true" (.bool true) text
    | 'f' :: _ => readWord "false" (.bool false) text
    | _ => (readNumeral text).map fun reading => (.number reading.1, reading.2)

/-- The items of an array from its first item on, and the text after its bracket. -/
def readItems : Nat → Text → Option (List Json × Text)
  | 0, _ => none
  | steps + 1, text => do
    let (item, rest) ← readValue steps text
    match skipBlanks rest with
    | ']' :: rest => return ([item], rest)
    | ',' :: rest =>
      let (later, rest) ← readItems steps (skipBlanks rest)
      return (item :: later, rest)
    | _ => none

/-- The members of an object from its first key on, and the text after its brace. -/
def readMembers : Nat → Text → Option (List (Option Text × Json) × Text)
  | 0, _ => none
  | steps + 1, text =>
    match text with
    | '"' :: rest => do
      let (key, rest) ← readString rest
      match skipBlanks rest with
      | ':' :: rest =>
        let (value, rest) ← readValue steps (skipBlanks rest)
        match skipBlanks rest with
        | '\x7d' :: rest => return ([(key, value)], rest)
        | ',' :: rest =>
          let (later, rest) ← readMembers steps (skipBlanks rest)
          return ((key, value) :: later, rest)
        | _ => none
      | _ => none
    | _ => none

end

/-- The value of a JSON document. -/
def parse? (text : Text) : Option Json := do
  let (value, rest) ← readValue (2 * text.length + 1) (skipBlanks text)
  if (skipBlanks rest).isEmpty then return value else none

end ExportManifest.Json
