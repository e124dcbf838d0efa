/-
**Classes of blank characters.**

Three classes are used side by side, and each place of a grammar names the one it means.

* `isGap` — space and tab, what separates words within a line.
* `isAsciiBlank` — gaps, newline, form feed and carriage return (the vertical tab is not one).
* `isBlank` — the Unicode property White_Space.
-/

import ExportManifest.Text.Ranges

namespace ExportManifest.Text

/-- Space or tab. -/
def isGap (c : Char) : Bool :=
  c == ' ' || c == '\t'

/-- Space, tab, newline, form feed or carriage return. -/
def isAsciiBlank (c : Char) : Bool :=
  c == ' ' || c == '\t' || c == '\n' || c == '\x0c' || c == '\r'

/-- The code points of the Unicode property White_Space, as inclusive ranges. -/
def blankRanges : List (Nat × Nat) :=
  [(0x09, 0x0d), (0x20, 0x20), (0x85, 0x85), (0xa0, 0xa0), (0x1680, 0x1680), (0x2000, 0x200a),
    (0x2028, 0x2029), (0x202f, 0x202f), (0x205f, 0x205f), (0x3000, 0x3000)]

/-- Whether the character has the Unicode property White_Space. -/
def isBlank (c : Char) : Bool :=
  isWithin blankRanges c

/-- A text without the blank characters at its two ends. -/
def trim (text : Text) : Text :=
  ((text.dropWhile isBlank).reverse.dropWhile isBlank).reverse

end ExportManifest.Text
