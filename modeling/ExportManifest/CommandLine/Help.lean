/-
**What the program says about itself.**
-/

import ExportManifest.Text.Lines

namespace ExportManifest.Help

/-- The answer to a question for the version of the program. -/
def version : Text :=
  "dllscan-cli 0.1.0\n".toList

/-- How the program is called. -/
def usage : Text :=
  "Usage: dllscan [OPTIONS] <SOURCE> <OUTPUT> <SCHEMA_VERSION>\n".toList

/-- The answer to a question for help. -/
def full : Text :=
  "Generate a JSON manifest of DLL-exported functions\n\n".toList ++ usage ++
  ("\nArguments:\n" ++
    "  <SOURCE>          C/C++ source file to scan\n" ++
    "  <OUTPUT>          Where to write the JSON manifest\n" ++
    "  <SCHEMA_VERSION>  Schema version recorded in the manifest (base-10 integer)\n" ++
    "\nOptions:\n" ++
    "  -v, --verbose              Print extra details about the scan\n" ++
    "      --attribute <LITERAL>  Attribute literal the export macro is defined to\n" ++
    "      --config <FILE>        Configuration file (defaults to ./dllscan.toml if present)\n" ++
    "  -h, --help                 Print help\n" ++
    "  -V, --version              Print version\n").toList

end ExportManifest.Help
