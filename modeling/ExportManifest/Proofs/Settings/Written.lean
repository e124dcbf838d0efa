/-
**Settings in a file and settings as arguments.**

A settings file gives the export attribute and the verbosity, and in its table `[output]` the
indentation, each on a line of its own (`Written`). The lines of a table may stand in any order, and
among them lines for keys without meaning. Whatever the attribute is, the file gives it back as it
is, and the option of the command line gives the same one.

* `UnknownKeys.exists_pairs`: the pairs of lines in any order.
* `parse_of_written`: **the settings of a document are those that are written in it.**
* `written_write`: every attribute, verbosity and indentation can be written.
* `Job.exportAttribute_ofSettings`: an attribute given as an argument stands above that of any
  settings.
* `written_settings_agree_with_option`: the file and the option give a scanner the same attribute.
-/

import ExportManifest.CommandLine.Program
import ExportManifest.Proofs.CommandLine.GivenAttribute
import ExportManifest.Proofs.Toml.Documents
import Mathlib.Data.List.Perm.Basic

namespace ExportManifest

namespace Settings

open Toml (Members IsBare SpellsPair SpellsString pairLine headerLine booleanWord)

/-! ### Keys -/

/-- The keys that have a meaning in a document. -/
def knownKeys : List Text :=
  ["export_attribute".toList, "verbose".toList, "output".toList]

/-- The keys that have a meaning in the table of the output. -/
def knownOutputKeys : List Text :=
  ["indent".toList]

/-- Bare keys without meaning, each of them once. -/
structure UnknownKeys (known : List Text) where
  keys : List Text
  bare : ∀ key ∈ keys, IsBare key
  distinct : keys.Nodup
  unknown : ∀ key ∈ keys, key ∉ known

namespace UnknownKeys

/-- No keys at all. -/
def empty {known : List Text} : UnknownKeys known :=
  { keys := [], bare := nofun, distinct := List.nodup_nil, unknown := nofun }

variable {known : List Text} (others : UnknownKeys known)

/-- The lines that set the keys. -/
def lines : List Text :=
  others.keys.map fun key => pairLine key "true".toList

/-- The members that the keys are. -/
def pairs : Members :=
  others.keys.map fun key => (key, .boolean true)

theorem map_fst_pairs : others.pairs.map Prod.fst = others.keys := by
  rw [pairs, List.map_map]
  exact List.map_id others.keys

theorem spells_pairs : List.Forall₂ SpellsPair others.pairs others.lines := by
  rw [pairs, lines, List.forall₂_map_left_iff, List.forall₂_map_right_iff, List.forall₂_same]
  exact fun key member => ⟨others.bare key member, _, .boolean true, rfl⟩

/-- **The pairs of lines in any order**: those of the lines that are known and those of the keys
that are not, each key once. -/
theorem exists_pairs {members : Members} {list lines : List Text}
    (spelled : List.Forall₂ SpellsPair members list)
    (distinct : (members.map Prod.fst).Nodup) (meant : members.map Prod.fst ⊆ known)
    (ordered : lines.Perm (list ++ others.lines)) :
    ∃ pairs : Members, List.Forall₂ SpellsPair pairs lines ∧ (pairs.map Prod.fst).Nodup ∧
      pairs.Perm (members ++ others.pairs) := by
  have all : List.Forall₂ SpellsPair (members ++ others.pairs) (list ++ others.lines) :=
    List.rel_append spelled others.spells_pairs
  obtain ⟨pairs, inOrder, reordered⟩ := List.perm_comp_forall₂ ordered all.flip
  have keys : ((members ++ others.pairs).map Prod.fst).Nodup := by
    rw [List.map_append, map_fst_pairs, List.nodup_append]
    refine ⟨distinct, others.distinct, ?_⟩
    rintro key inMembers _ inOthers rfl
    exact others.unknown key inOthers (meant inMembers)
  exact ⟨pairs, inOrder.flip, (reordered.map Prod.fst).nodup_iff.mpr keys, reordered⟩

end UnknownKeys

/-! ### Documents -/

/-- The settings with all three given. -/
def given (content : Text) (verbose : Bool) (indent : Nat) : Settings :=
  { exportAttribute? := some content, verbose? := some verbose,
    output? := some { indent? := some indent } }

/-- A document that gives the three settings: the first two before the header of the output and the
third behind it, with keys without meaning on both sides and the lines of each side in any order.
The lines may end in `\n` or `\r\n`. -/
inductive Written (content : Text) (verbose : Bool) (indent : Nat) (document : Text) : Prop
  | intro {quoted : Text} (spelled : SpellsString content quoted)
    (others : UnknownKeys knownKeys) (outputOthers : UnknownKeys knownOutputKeys)
    {front back : List Text}
    (inFront : front.Perm (pairLine "export_attribute".toList quoted ::
      pairLine "verbose".toList (booleanWord verbose) :: others.lines))
    (behind : back.Perm (pairLine "indent".toList (Decimal.ofNat indent) :: outputOthers.lines))
    (lines : document.lines = front ++ headerLine "output".toList :: back)

/-- The pairs before the header. -/
theorem exists_front {content quoted : Text} {verbose : Bool} {front : List Text}
    (spelled : SpellsString content quoted) (others : UnknownKeys knownKeys)
    (inFront : front.Perm (pairLine "export_attribute".toList quoted ::
      pairLine "verbose".toList (booleanWord verbose) :: others.lines)) :
    ∃ pairs : Members, List.Forall₂ SpellsPair pairs front ∧ (pairs.map Prod.fst).Nodup ∧
      "output".toList ∉ pairs.map Prod.fst ∧
      ("export_attribute".toList, .string content) ∈ pairs ∧
      ("verbose".toList, .boolean verbose) ∈ pairs := by
  have known : List.Forall₂ SpellsPair
      [("export_attribute".toList, .string content), ("verbose".toList, .boolean verbose)]
      [pairLine "export_attribute".toList quoted,
        pairLine "verbose".toList (booleanWord verbose)] :=
    .cons ⟨show IsBare "export_attribute".toList by decide, _, .string spelled, rfl⟩
      (.cons ⟨show IsBare "verbose".toList by decide, _, .boolean verbose, rfl⟩ .nil)
  obtain ⟨pairs, inOrder, distinct, reordered⟩ := others.exists_pairs known
    (show ["export_attribute".toList, "verbose".toList].Nodup by decide)
    (show ["export_attribute".toList, "verbose".toList] ⊆ knownKeys by decide) inFront
  refine ⟨pairs, inOrder, distinct, ?_, reordered.mem_iff.mpr List.mem_cons_self,
    reordered.mem_iff.mpr (List.mem_cons_of_mem _ List.mem_cons_self)⟩
  rw [(reordered.map Prod.fst).mem_iff, List.map_append, UnknownKeys.map_fst_pairs, List.mem_append,
    not_or]
  exact ⟨show "output".toList ∉ ["export_attribute".toList, "verbose".toList] by decide,
    fun member => others.unknown _ member (by decide)⟩

/-- The pairs behind the header. -/
theorem exists_back {indent : Nat} {back : List Text}
    (fits : (indent : Int) ≤ Decimal.greatestInt64) (others : UnknownKeys knownOutputKeys)
    (behind : back.Perm (pairLine "indent".toList (Decimal.ofNat indent) :: others.lines)) :
    ∃ pairs : Members, List.Forall₂ SpellsPair pairs back ∧ (pairs.map Prod.fst).Nodup ∧
      ("indent".toList, .integer indent) ∈ pairs := by
  have known : List.Forall₂ SpellsPair [("indent".toList, .integer indent)]
      [pairLine "indent".toList (Decimal.ofNat indent)] :=
    .cons ⟨show IsBare "indent".toList by decide, _, .natural fits, rfl⟩ .nil
  obtain ⟨pairs, inOrder, distinct, reordered⟩ := others.exists_pairs known
    (show ["indent".toList].Nodup by decide) (show ["indent".toList] ⊆ knownOutputKeys by decide)
    behind
  exact ⟨pairs, inOrder, distinct, reordered.mem_iff.mpr List.mem_cons_self⟩

theorem optional?_of_mem {α : Type} {decode : Toml.Node → Option α} {key : String}
    {members : Members} (distinct : (members.map Prod.fst).Nodup) {node : Toml.Node} {value : α}
    (member : (key.toList, node) ∈ members) (decoded : decode node = some value) :
    optional? decode key members = some (some value) := by
  rw [optional?, Members.find?_of_mem distinct member]
  show (decode node).map some = _
  rw [decoded]
  rfl

/-- **The settings of a document are those that are written in it.** -/
theorem parse_of_written {content document : Text} {verbose : Bool} {indent : Nat}
    (fits : (indent : Int) ≤ Decimal.greatestInt64)
    (written : Written content verbose indent document) (path : Text) :
    parse path document = .ok (given content verbose indent) := by
  obtain ⟨spelled, others, outputOthers, inFront, behind, lines⟩ := written
  obtain ⟨pairs, inOrder, distinct, fresh, literal, verbosity⟩ :=
    exists_front spelled others inFront
  obtain ⟨outputPairs, outputInOrder, outputDistinct, indentation⟩ :=
    exists_back fits outputOthers behind
  have tables := Toml.parse?_lines lines (by decide) inOrder outputInOrder distinct fresh
    outputDistinct
  have allDistinct : ((pairs ++ [("output".toList,
      Toml.Node.table .header outputPairs)]).map Prod.fst).Nodup := by
    rw [List.map_append, List.nodup_append]
    refine ⟨distinct, List.pairwise_singleton _ _, ?_⟩
    rintro key inPairs _ isOutput rfl
    rw [List.mem_singleton.mp isOutput] at inPairs
    exact fresh inPairs
  have indentRead : optional? nat? "indent" outputPairs = some (some indent) :=
    optional?_of_mem outputDistinct indentation rfl
  have outputRead : outputSettings? (.table .header outputPairs) =
      some { indent? := some indent } := by
    rw [outputSettings?, indentRead]
    rfl
  have settings : ofMembers? (pairs ++ [("output".toList, .table .header outputPairs)]) =
      some (given content verbose indent) := by
    have literalRead : text? (.string content) = some content := rfl
    have verbosityRead : bool? (.boolean verbose) = some verbose := rfl
    unfold ofMembers?
    rw [optional?_of_mem allDistinct (List.mem_append_left _ literal) literalRead,
      optional?_of_mem allDistinct (List.mem_append_left _ verbosity) verbosityRead,
      optional?_of_mem allDistinct (List.mem_append_right _ List.mem_cons_self) outputRead]
    rfl
  rw [parse, parse?, tables, Option.bind_some, settings]

/-! ### Writing -/

/-- The lines of the three settings. -/
def linesOf (content : Text) (verbose : Bool) (indent : Nat) : List Text :=
  [pairLine "export_attribute".toList (Toml.writeString content),
    pairLine "verbose".toList (booleanWord verbose),
    headerLine "output".toList,
    pairLine "indent".toList (Decimal.ofNat indent)]

/-- The three settings on four lines. -/
def write (content : Text) (verbose : Bool) (indent : Nat) : Text :=
  (linesOf content verbose indent).flatMap fun line => line ++ ['\n']

section Writing

variable {content : Text} {verbose : Bool} {indent : Nat}

/-- No line of them holds a control character, and so none holds the end of a line. -/
theorem any_isControl_linesOf :
    ∀ line ∈ linesOf content verbose indent, line.any Toml.isControl = false := by
  have pair : ∀ {key value : Text}, key.any Toml.isControl = false →
      value.any Toml.isControl = false → (pairLine key value).any Toml.isControl = false := by
    intro key value inKey inValue
    rw [pairLine, List.any_append, List.any_append, inKey, inValue]
    rfl
  have digits : (Decimal.ofNat indent).any Toml.isControl = false := by
    rw [List.any_eq_false]
    intro c member control
    have range : 48 ≤ c.toNat ∧ c.toNat ≤ 57 :=
      Char.isDigit_iff_toNat.mp ((Decimal.digits_ofNat indent).2 c member)
    simp only [Toml.isControl, Bool.or_eq_true, Bool.and_eq_true, decide_eq_true_eq] at control
    omega
  simp only [linesOf, List.forall_mem_cons]
  exact ⟨pair rfl (Toml.any_isControl_writeString content), pair rfl (by cases verbose <;> rfl),
    rfl, pair rfl digits, nofun⟩

theorem lines_write : (write content verbose indent).lines = linesOf content verbose indent := by
  refine Text.lines_flatMap_newline fun line member => ?_
  have visible := List.any_eq_false.mp (any_isControl_linesOf line member)
  exact ⟨fun newline => visible _ newline rfl,
    fun last => visible _ (List.mem_of_getLast? last) rfl⟩

/-- **Every attribute, verbosity and indentation can be written.** -/
theorem written_write : Written content verbose indent (write content verbose indent) :=
  .intro (Toml.spellsString_writeString content) .empty .empty (.refl _) (.refl _) lines_write

end Writing

end Settings

/-! ### Arguments -/

/-- The attribute of a scanner: an empty one stands for the default. -/
def effectiveAttribute (content : Text) : Text :=
  if content = [] then Settings.defaultExportAttribute else content

theorem Settings.exportAttribute_of_some {settings : Settings} {content : Text}
    (given : settings.exportAttribute? = some content) :
    settings.exportAttribute = effectiveAttribute content := by
  rw [exportAttribute, given]
  cases content <;> rfl

/-- **An attribute given as an argument stands above that of any settings.** -/
theorem Job.exportAttribute_ofSettings {arguments : Arguments} {clock : Clock} {other : Settings}
    {job : Job} (ready : ofSettings arguments clock (.ok other) = .ok job) {content : Text}
    (given : arguments.exportAttribute? = some content) :
    job.scanner.exportAttribute = effectiveAttribute content := by
  have chosen : (arguments.override other).exportAttribute? = some content := by
    rw [Arguments.override, given]
  unfold ofSettings at ready
  simp only at ready
  split at ready
  · cases ready
  · cases ready
    exact Settings.exportAttribute_of_some chosen

/-- **The settings file and the option give a scanner the same attribute.** Any attribute, verbosity
and indentation can be written on four lines. A document with these lines, in any order within their
tables and among keys without meaning, is read as exactly these settings, and the scanner made from
them has the attribute, or the default in place of an empty one, and the indentation. Arguments that
give the attribute, if they ask for a run, make a scanner with the same attribute on top of any
other settings; and each attribute can be given so. -/
theorem written_settings_agree_with_option (content : Text) (verbose : Bool) {indent : Nat}
    (fits : (indent : Int) ≤ Decimal.greatestInt64) (path : Text) (clock : Clock) :
    Settings.parse path (Settings.write content verbose indent) =
      .ok (.given content verbose indent) ∧
    (∀ document, Settings.Written content verbose indent document →
      Settings.parse path document = .ok (.given content verbose indent)) ∧
    Scanner.ofSettings (.given content verbose indent) clock =
      { exportAttribute := effectiveAttribute content, indent, clock } ∧
    (∀ vector arguments, GivesAttribute content vector →
      Invocation.ofArguments vector = .run arguments →
      ∀ other job, Job.ofSettings arguments clock (.ok other) = .ok job →
        job.scanner.exportAttribute =
          (Scanner.ofSettings (.given content verbose indent) clock).exportAttribute) ∧
    ∀ source output version, IsPlain source → IsPlain output → IsPlain version →
      Invocation.ofArguments (["--attribute=".toList ++ content] ++ [source, output, version]) =
        .run (.withAttribute content source output version) ∧
      (content.head? ≠ some '-' →
        Invocation.ofArguments (["--attribute".toList, content] ++ [source, output, version]) =
          .run (.withAttribute content source output version)) := by
  have scanner : Scanner.ofSettings (.given content verbose indent) clock =
      { exportAttribute := effectiveAttribute content, indent, clock } := by
    rw [Scanner.ofSettings, Settings.exportAttribute_of_some rfl]
    rfl
  refine ⟨Settings.parse_of_written fits Settings.written_write path,
    fun document written => Settings.parse_of_written fits written path, scanner, ?_, ?_⟩
  · intro vector arguments given runs other job ready
    rw [scanner]
    exact Job.exportAttribute_ofSettings ready (exportAttribute?_of_run given runs)
  · intro source output version plainSource plainOutput plainVersion
    exact ⟨ofArguments_attached plainSource plainOutput plainVersion content,
      ofArguments_separate plainSource plainOutput plainVersion⟩

/-- The first two settings in the other order, among keys without meaning. -/
def reorderedFront : List Text :=
  ["indent = true".toList, "verbose = false".toList,
    "export_attribute = \"x(\\\"\\\\\\u0007\"".toList, "a-1 = true".toList]

/-- The third setting, behind a key without meaning. -/
def reorderedBack : List Text :=
  ["verbose = true".toList, "indent = 9223372036854775807".toList]

/-- These lines, each ended by `\r\n`. -/
def reorderedSettings : Text :=
  (reorderedFront ++ "[output]".toList :: reorderedBack).flatMap fun line => line ++ "\r\n".toList

theorem written_reorderedSettings :
    Settings.Written "x(\"\\\x07".toList false 9223372036854775807 reorderedSettings :=
  .intro (Toml.spellsString_writeString _)
    { keys := ["indent".toList, "a-1".toList], bare := by decide, distinct := by decide,
      unknown := by decide }
    { keys := ["verbose".toList], bare := by decide, distinct := by decide, unknown := by decide }
    (show reorderedFront.Perm _ by decide +kernel) (show reorderedBack.Perm _ by decide +kernel)
    (show reorderedSettings.lines = _ by decide +kernel)

/-- The attribute has a quote, a backslash and a control character, and the indentation is the
greatest. The option stands between two values, and the settings below it have an attribute of their
own. -/
theorem written_settings_agree_with_option_reordered :
    Settings.parse "dllscan.toml".toList reorderedSettings =
      .ok (.given "x(\"\\\x07".toList false 9223372036854775807) ∧
    ∃ arguments job,
      Invocation.ofArguments ["a.c".toList, "--attribute".toList, "x(\"\\\x07".toList,
        "-v".toList, "m.json".toList, "-1".toList] = .run arguments ∧
      Job.ofSettings arguments (.fixed "t".toList) (.ok (.given "y".toList true 2)) = .ok job ∧
      job.scanner.exportAttribute = "x(\"\\\x07".toList ∧ job.scanner.indent = 2 := by
  obtain ⟨_, parsed, scanner, agrees, _⟩ :=
    written_settings_agree_with_option "x(\"\\\x07".toList false
      (show ((9223372036854775807 : Nat) : Int) ≤ Decimal.greatestInt64 by decide)
      "dllscan.toml".toList (.fixed "t".toList)
  have gives : GivesAttribute "x(\"\\\x07".toList ["a.c".toList, "--attribute".toList,
      "x(\"\\\x07".toList, "-v".toList, "m.json".toList, "-1".toList] :=
    ⟨["a.c".toList], _, ["-v".toList, "m.json".toList, "-1".toList], by decide, .separate, rfl⟩
  have runs : Invocation.ofArguments ["a.c".toList, "--attribute".toList,
      "x(\"\\\x07".toList, "-v".toList, "m.json".toList, "-1".toList] =
        .run { Arguments.withAttribute "x(\"\\\x07".toList "a.c".toList "m.json".toList
          "-1".toList with verbose := true } := by
    decide
  refine ⟨parsed reorderedSettings written_reorderedSettings, _, _, runs, rfl, ?_, rfl⟩
  have same := agrees _ _ gives runs (.given "y".toList true 2) _ rfl
  rw [same, scanner]
  rfl

end ExportManifest
