/-
**How a manifest is written.**

A manifest is written as JSON over several lines. `Manifest.layout` gives the lines with their
nesting depth: 0 for the outer braces, 1 for the four members, 2 for the braces of a function and
3 for its members. `Manifest.render` indents every line by its depth times the given width and
ends it with a newline. A manifest without functions has `[]` on the line of the fourth member.
-/

import ExportManifest.Json.Written
import ExportManifest.Manifest.Basic

namespace ExportManifest

/-- A line of a layout: its depth and what stands on it. -/
structure LayoutLine where
  depth : Nat
  content : Text
deriving DecidableEq, Repr

namespace LayoutLine

/-- The line with its indentation and its newline. -/
def render (width : Nat) (line : LayoutLine) : Text :=
  List.replicate (line.depth * width) ' ' ++ line.content ++ ['\n']

end LayoutLine

/-- A member `"key": value` as the content of a line. -/
def memberText (key : Text) (value : Text) : Text :=
  Json.writeString key ++ ": ".toList ++ value

/-- The lines of one function; a comma ends them if another function follows. -/
def Signature.layout (signature : Signature) (more : Bool) : List LayoutLine :=
  [{ depth := 2, content := ['\x7b'] },
    { depth := 3,
      content := memberText "name".toList (Json.writeString signature.name) ++ [','] },
    { depth := 3,
      content := memberText "return_type".toList (Json.writeString signature.returnType) ++ [','] },
    { depth := 3, content := memberText "args".toList (Json.writeString signature.args) },
    { depth := 2, content := if more then ['\x7d', ','] else ['\x7d'] }]

/-- The lines of a list of functions. -/
def functionsLayout : List Signature → List LayoutLine
  | [] => []
  | signature :: later => signature.layout (!later.isEmpty) ++ functionsLayout later

namespace Manifest

/-- The lines of the member that lists the functions. -/
def listLayout (functions : List Signature) : List LayoutLine :=
  let key := "exported_functions".toList
  if functions.isEmpty then
    [{ depth := 1, content := memberText key ['[', ']'] }]
  else
    [{ depth := 1, content := memberText key ['['] }] ++ functionsLayout functions ++
      [{ depth := 1, content := [']'] }]

/-- The lines of a manifest. -/
def layout (manifest : Manifest) : List LayoutLine :=
  [{ depth := 0, content := ['\x7b'] },
    { depth := 1,
      content :=
        memberText "schema_version".toList (Decimal.ofInt manifest.schemaVersion.toInt) ++ [','] },
    { depth := 1,
      content := memberText "source".toList (Json.writeString manifest.source) ++ [','] },
    { depth := 1,
      content := memberText "timestamp".toList (Json.writeString manifest.timestamp) ++ [','] }] ++
    listLayout manifest.functions ++ [{ depth := 0, content := ['\x7d'] }]

/-- A manifest as text, with the given width of indentation. -/
def render (manifest : Manifest) (width : Nat) : Text :=
  manifest.layout.flatMap (LayoutLine.render width)

end Manifest

end ExportManifest
