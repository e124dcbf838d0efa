/-
**Strings in TOML.**

There are four forms: basic strings between `"` and literal strings between an apostrophe, each on
one line or, between three quotes, over several. Escapes have a meaning in the basic forms only.
In the forms over several lines a first newline is dropped, one or two quotes are content, and up
to two quotes may stand directly before the closing three; in the basic one a backslash at the end
of a line joins it to the next visible character.

The readers take the text after the opening quote and give the content and the text after the
closing quote. Newlines are plain `\n` here. Each step takes at least one character, so a step
count of the length of the text is never used up.
-/

import ExportManifest.Text.Blank
import ExportManifest.Text.Hexadecimal

namespace ExportManifest.Toml

/-- A character that may stand in a comment: a tab, or anything but a control character. -/
def isVisible (c : Char) : Bool :=
  c == '\t' || (0x20 ≤ c.toNat && c.toNat != 0x7f)

/-- A character that stands for itself in a basic string. -/
def isBasicChar (c : Char) : Bool :=
  isVisible c && c != '"' && c != '\\'

/-- A character of a literal string. -/
def isLiteralChar (c : Char) : Bool :=
  isVisible c && c != '\''

/-- The character whose code point is written by hexadecimal digits. -/
def scalar? (digits : Text) : Option Char := do
  let values ← digits.mapM Hexadecimal.value?
  let code := values.foldl (fun code value => code * 16 + value) 0
  if code.isValidChar then return Char.ofNat code else none

/-- The character of an escape after its backslash, and the text after it. -/
def readEscape : Text → Option (Char × Text)
  | 'b' :: rest => some ('\x08', rest)
  | 't' :: rest => some ('\t', rest)
  | 'n' :: rest => some ('\n', rest)
  | 'f' :: rest => some ('\x0c', rest)
  | 'r' :: rest => some ('\r', rest)
  | '"' :: rest => some ('"', rest)
  | '\\' :: rest => some ('\\', rest)
  | 'u' :: rest =>
    if rest.length < 4 then none else (scalar? (rest.take 4)).map fun c => (c, rest.drop 4)
  | 'U' :: rest =>
    if rest.length < 8 then none else (scalar? (rest.take 8)).map fun c => (c, rest.drop 8)
  | _ => none

/-- A character in front of the content of a reading. -/
def consContent (c : Char) (reading : Option (Text × Text)) : Option (Text × Text) :=
  reading.map fun reading => (c :: reading.1, reading.2)

/-- A basic string on one line. -/
def readBasic : Nat → Text → Option (Text × Text)
  | 0, _ => none
  | steps + 1, text =>
    match text with
    | [] => none
    | '"' :: rest => some ([], rest)
    | '\\' :: rest => (readEscape rest).bind fun escape =>
      consContent escape.1 (readBasic steps escape.2)
    | c :: rest => if isBasicChar c then consContent c (readBasic steps rest) else none

/-- A literal string on one line. -/
def readLiteral (text : Text) : Option (Text × Text) :=
  match text.dropWhile isLiteralChar with
  | '\'' :: rest => some (text.takeWhile isLiteralChar, rest)
  | _ => none

/-- The text after a newline at its front, if there is one. -/
def dropNewline : Text → Text
  | '\n' :: rest => rest
  | text => text

/-- A basic string over several lines, from its first content on. -/
def readBasicLines : Nat → Text → Option (Text × Text)
  | 0, _ => none
  | steps + 1, text =>
    match text with
    | [] => none
    | '"' :: '"' :: '"' :: '"' :: '"' :: rest => some (['"', '"'], rest)
    | '"' :: '"' :: '"' :: '"' :: rest => some (['"'], rest)
    | '"' :: '"' :: '"' :: rest => some ([], rest)
    | '"' :: rest => consContent '"' (readBasicLines steps rest)
    | '\n' :: rest => consContent '\n' (readBasicLines steps rest)
    | '\\' :: rest =>
      match rest.dropWhile Text.isGap with
      | '\n' :: later =>
        readBasicLines steps (later.dropWhile fun c => Text.isGap c || c == '\n')
      | _ => (readEscape rest).bind fun escape =>
        consContent escape.1 (readBasicLines steps escape.2)
    | c :: rest => if isBasicChar c then consContent c (readBasicLines steps rest) else none

/-- A literal string over several lines, from its first content on. -/
def readLiteralLines : Text → Option (Text × Text)
  | [] => none
  | '\'' :: '\'' :: '\'' :: '\'' :: '\'' :: rest => some (['\'', '\''], rest)
  | '\'' :: '\'' :: '\'' :: '\'' :: rest => some (['\''], rest)
  | '\'' :: '\'' :: '\'' :: rest => some ([], rest)
  | c :: rest =>
    if isVisible c || c == '\n' then consContent c (readLiteralLines rest) else none

/-- A string on one line, at the front of a text: the form that keys can take. -/
def readLineString : Text → Option (Text × Text)
  | '"' :: rest => readBasic (rest.length + 1) rest
  | '\'' :: rest => readLiteral rest
  | _ => none

/-- A string at the front of a text. -/
def readString : Text → Option (Text × Text)
  | '"' :: '"' :: '"' :: rest => readBasicLines (rest.length + 1) (dropNewline rest)
  | '\'' :: '\'' :: '\'' :: rest => readLiteralLines (dropNewline rest)
  | text => readLineString text

end ExportManifest.Toml
