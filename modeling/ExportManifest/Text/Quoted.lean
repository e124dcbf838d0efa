/-
**Quoted texts.**

A quoted text stands between two `"` characters. Inside, `"` and `\` take a backslash, four
control characters have a letter (`\0`, `\t`, `\n`, `\r`), every other hidden character is
spelled `\u{…}` by its code point in lower-case hexadecimal, and all else is itself. Which
characters are hidden is a parameter of `quoteWith`; `quote` takes `Text.isHidden`.
-/

import ExportManifest.Text.Hidden

namespace ExportManifest.Text

/-- A character as it stands in a quoted text. -/
def quoteChar (hidden : Char → Bool) (c : Char) : Text :=
  if c = '"' then ['\\', '"']
  else if c = '\\' then ['\\', '\\']
  else if c = '\x00' then ['\\', '0']
  else if c = '\t' then ['\\', 't']
  else if c = '\n' then ['\\', 'n']
  else if c = '\r' then ['\\', 'r']
  else if hidden c then ['\\', 'u', '\x7b'] ++ Nat.toDigits 16 c.toNat ++ ['\x7d']
  else [c]

/-- A text between quotes, with the given characters spelled out. -/
def quoteWith (hidden : Char → Bool) (text : Text) : Text :=
  ['"'] ++ text.flatMap (quoteChar hidden) ++ ['"']

/-- A text between quotes. -/
def quote (text : Text) : Text :=
  quoteWith isHidden text

end ExportManifest.Text
