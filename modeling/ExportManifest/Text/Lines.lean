/-
**Texts and their lines.**

A text is a list of characters. `Text.lines` cuts it at every newline, without the newline and
without one carriage return just before it; a carriage return anywhere else stays, and there is no
empty last line. `Text.pieces` cuts at a separator and keeps every piece, the empty ones included.
-/

namespace ExportManifest

/-- A text, as the list of its characters. -/
abbrev Text := List Char

namespace Text

/-- The lines of a text. A line ends at `\n` or `\r\n`, or where the text ends. -/
def lines : Text → List Text
  | [] => []
  | '\n' :: rest => [] :: lines rest
  | '\r' :: '\n' :: rest => [] :: lines rest
  | c :: rest =>
    match lines rest with
    | [] => [[c]]
    | line :: later => (c :: line) :: later

/-- The parts of a text between separators; a text without separator is one part. -/
def pieces (separator : Char) : Text → List Text
  | [] => [[]]
  | c :: rest =>
    if c = separator then
      [] :: pieces separator rest
    else
      match pieces separator rest with
      | [] => [[c]]
      | piece :: later => (c :: piece) :: later

/-- Whether the pattern occurs somewhere in the text. The empty pattern occurs in every text. -/
def occursIn (pattern : Text) : Text → Bool
  | [] => pattern.isEmpty
  | c :: rest => pattern.isPrefixOf (c :: rest) || occursIn pattern rest

end Text

end ExportManifest
