/-
**Classes of characters.**

A class of characters is given by ranges of code points; `Text.isWithin` asks whether a character
lies in one of them.
-/

import ExportManifest.Text.Lines

namespace ExportManifest.Text

/-- Whether the code point of a character lies in one of the inclusive ranges. -/
def isWithin (ranges : List (Nat × Nat)) (c : Char) : Bool :=
  ranges.any fun range => range.1 ≤ c.toNat && c.toNat ≤ range.2

end ExportManifest.Text
