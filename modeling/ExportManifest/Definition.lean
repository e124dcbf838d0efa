/-
**Which macro marks the exported functions.**

A source binds its export macro by a line `#define NAME …` that contains the export attribute.
Lines that contain the attribute are tried in order and the first that is a definition wins; the
search goes no further. Matching is textual: an attribute in a comment counts.
-/

import ExportManifest.Event
import ExportManifest.Text.Blank

namespace ExportManifest

namespace Definition

/-- The name that a line defines: `#define` at the start of the line, one or more gaps, and a
non-empty run of characters that are not blank. -/
def name? (line : Text) : Option Text :=
  match "#define".toList.isPrefixOf? line with
  | none => none
  | some rest =>
    let name := (rest.dropWhile Text.isGap).takeWhile fun c => !Text.isBlank c
    if rest.head?.any Text.isGap && !name.isEmpty then some name else none

/-- Searches the lines, the first of which has the given number, for the definition of the export
macro, and tells what it passes on the way. -/
def searchFrom (exportAttribute : Text) : Nat → List Text → Option Text × List Event
  | _, [] => (none, [])
  | number, line :: later =>
    if exportAttribute.occursIn line then
      match name? line with
      | some name => (some name, [.macroDetected number name])
      | none =>
        let search := searchFrom exportAttribute (number + 1) later
        (search.1, .attributeElsewhere number :: search.2)
    else
      searchFrom exportAttribute (number + 1) later

/-- Searches the lines of a source for the definition of its export macro. -/
def search (exportAttribute : Text) (lines : List Text) : Option Text × List Event :=
  searchFrom exportAttribute 1 lines

end Definition

/-- The export macro that the lines of a source bind to the attribute. -/
def exportMacro? (exportAttribute : Text) (lines : List Text) : Option Text :=
  (Definition.search exportAttribute lines).1

end ExportManifest
