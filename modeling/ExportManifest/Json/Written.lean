/-
**Strings in JSON.**

Between its quotes a string is written character by character. `"` and `\` take a backslash, five
control characters have a letter, the other characters below U+0020 are written `\u00xx` in
lower-case hexadecimal, and every other character stands for itself.
-/

import ExportManifest.Text.Hexadecimal

namespace ExportManifest.Json

/-- A character as it stands in a JSON string. -/
def escapeChar (c : Char) : Text :=
  if c = '"' then ['\\', '"']
  else if c = '\\' then ['\\', '\\']
  else if c = '\x08' then ['\\', 'b']
  else if c = '\x0c' then ['\\', 'f']
  else if c = '\n' then ['\\', 'n']
  else if c = '\r' then ['\\', 'r']
  else if c = '\t' then ['\\', 't']
  else if c.toNat < 0x20 then
    ['\\', 'u', '0', '0', Hexadecimal.digit (c.toNat / 16), Hexadecimal.digit c.toNat]
  else [c]

/-- A text as a JSON string, with its quotes. -/
def writeString (text : Text) : Text :=
  ['"'] ++ text.flatMap escapeChar ++ ['"']

end ExportManifest.Json
