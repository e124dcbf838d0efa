/-
**The lines of a written manifest.**

Whatever the strings of a manifest hold, its text has the lines of an outline that depends on the
number of functions alone: so many lines, each at its depth, each beginning with its key or its
bracket. No string can add a line or end one early, because every character below U+0020 is written
as an escape. The width of indentation changes the spaces in front of the lines and nothing else.

* `outline`: the depth of each line and the text it begins with.
* `visible_escapeChar`, `visible_writeString`: **a string is written without control characters.**
* `functionsLayout_follows`, `layout_follows`: the lines follow the outline, by induction on the
  functions.
* `lines_render`: the lines of the text are the lines of the layout, with their indentation.
* `withoutIndentation_render`: what is left without indentation is the text of width 0.
* `render_laidOut`: all of this for every manifest and every width.
-/

import ExportManifest.Proofs.Manifest.RoundTrip
import ExportManifest.Proofs.Text.Decimal
import ExportManifest.Proofs.Text.Lines
import Mathlib.Data.List.Forall2

namespace ExportManifest

/-! ### The outline -/

/-- The lines of one function: their depths, and what they begin with. -/
def functionOutline : List (Nat × Text) :=
  [(2, ['\x7b']), (3, "\"name\": ".toList), (3, "\"return_type\": ".toList),
    (3, "\"args\": ".toList), (2, ['\x7d'])]

/-- The lines of a manifest with the given number of functions: their depths, and what they begin
with. -/
def outline (count : Nat) : List (Nat × Text) :=
  [(0, ['\x7b']), (1, "\"schema_version\": ".toList), (1, "\"source\": ".toList),
    (1, "\"timestamp\": ".toList), (1, "\"exported_functions\": [".toList)] ++
  (if count = 0 then [] else (List.replicate count functionOutline).flatten ++ [(1, [']'])]) ++
  [(0, ['\x7d'])]

theorem length_outline (count : Nat) :
    (outline count).length = if count = 0 then 6 else 7 + 5 * count := by
  unfold outline
  split
  · rfl
  · simp only [List.length_append, List.length_flatten, List.map_replicate, List.sum_replicate_nat]
    simp only [functionOutline, List.length_cons, List.length_nil]
    omega

/-! ### No control characters -/

/-- The text has no character below U+0020. -/
def Visible (text : Text) : Prop :=
  ∀ c ∈ text, 0x20 ≤ c.toNat

instance (text : Text) : Decidable (Visible text) :=
  List.decidableBAll (fun c : Char => 0x20 ≤ c.toNat) text

theorem Visible.append {front back : Text} (first : Visible front) (second : Visible back) :
    Visible (front ++ back) :=
  List.forall_mem_append.mpr ⟨first, second⟩

/-- **A character is written without control characters.** -/
theorem visible_escapeChar (c : Char) : Visible (Json.escapeChar c) := by
  by_cases control : c.toNat < 0x20
  · have table : ∀ n < 0x20, Visible (Json.escapeChar (Char.ofNat n)) := by decide
    have escaped := table c.toNat control
    rwa [Char.ofNat_toNat] at escaped
  · -- Beyond the control characters only the quote and the backslash are escaped.
    have other : ∀ d : Char, d.toNat < 0x20 → c ≠ d := by
      rintro d small rfl
      exact control small
    unfold Json.escapeChar
    rw [if_neg (other '\x08' (by decide)), if_neg (other '\x0c' (by decide)),
      if_neg (other '\n' (by decide)), if_neg (other '\r' (by decide)),
      if_neg (other '\t' (by decide)), if_neg control]
    split
    · decide
    split
    · decide
    · intro d member
      rw [List.mem_singleton.mp member]
      omega

theorem visible_writeString (text : Text) : Visible (Json.writeString text) := by
  have quote : Visible ['"'] := by decide
  refine (quote.append fun c member => ?_).append quote
  obtain ⟨d, _, escaped⟩ := List.mem_flatMap.mp member
  exact visible_escapeChar d c escaped

theorem visible_ofInt (n : Int) : Visible (Decimal.ofInt n) := by
  have visible : Visible "+-0123456789".toList := by decide
  exact fun c member => visible c ((Decimal.denotes_ofInt n).mem_chars c member)

/-! ### Lines that follow the outline -/

/-- A line stands at the expected depth and begins as expected, and its content neither begins with
a space nor has control characters. -/
structure LayoutLine.Follows (line : LayoutLine) (expected : Nat × Text) : Prop where
  depth : line.depth = expected.1
  starts : expected.2 <+: line.content
  solid : ∃ c rest, line.content = c :: rest ∧ c ≠ ' '
  visible : Visible line.content

theorem follows_mark (depth : Nat) {mark : Char} (solid : mark ≠ ' ') (visible : Visible [mark]) :
    LayoutLine.Follows { depth, content := [mark] } (depth, [mark]) :=
  ⟨rfl, List.prefix_rfl, ⟨mark, [], rfl, solid⟩, visible⟩

theorem follows_member (depth : Nat) (key : Text) {value : Text} (visible : Visible value) :
    LayoutLine.Follows { depth, content := memberText key value }
      (depth, Json.writeString key ++ ": ".toList) := by
  have colon : Visible ": ".toList := by decide
  exact ⟨rfl, List.prefix_append _ _, ⟨'"', _, rfl, by decide⟩,
    ((visible_writeString key).append colon).append visible⟩

/-- What is added behind the content of a line changes neither its depth nor its start. -/
theorem LayoutLine.Follows.append {depth : Nat} {content start added : Text}
    (follows : LayoutLine.Follows { depth, content } (depth, start)) (visible : Visible added) :
    LayoutLine.Follows { depth, content := content ++ added } (depth, start) := by
  obtain ⟨c, rest, shape, solid⟩ := follows.solid
  refine ⟨rfl, follows.starts.trans (List.prefix_append _ _), ⟨c, rest ++ added, ?_, solid⟩,
    follows.visible.append visible⟩
  show content ++ added = c :: (rest ++ added)
  rw [show content = c :: rest from shape, List.cons_append]

theorem visible_comma : Visible [','] := by
  decide

/-- **The lines of a function follow its outline**, whether or not another function follows. -/
theorem Signature.layout_follows (signature : Signature) (more : Bool) :
    List.Forall₂ LayoutLine.Follows (signature.layout more) functionOutline := by
  have visible := visible_writeString
  have closing : LayoutLine.Follows
      { depth := 2, content := if more then ['\x7d', ','] else ['\x7d'] } (2, ['\x7d']) := by
    have brace : LayoutLine.Follows { depth := 2, content := ['\x7d'] } (2, ['\x7d']) :=
      follows_mark 2 (by decide) (by decide)
    cases more with
    | false => exact brace
    | true => exact brace.append visible_comma
  exact .cons (follows_mark 2 (by decide) (by decide))
    (.cons ((follows_member 3 "name".toList (visible _)).append visible_comma)
      (.cons ((follows_member 3 "return_type".toList (visible _)).append visible_comma)
        (.cons (follows_member 3 "args".toList (visible _)) (.cons closing .nil))))

theorem functionsLayout_follows (functions : List Signature) :
    List.Forall₂ LayoutLine.Follows (functionsLayout functions)
      (List.replicate functions.length functionOutline).flatten := by
  induction functions with
  | nil => exact .nil
  | cons signature later ih =>
    rw [functionsLayout, List.length_cons, List.replicate_succ, List.flatten_cons]
    exact List.rel_append (signature.layout_follows _) ih

namespace Manifest

theorem listLayout_follows (functions : List Signature) :
    List.Forall₂ LayoutLine.Follows (listLayout functions)
      ((1, "\"exported_functions\": [".toList) ::
        if functions.length = 0 then []
        else (List.replicate functions.length functionOutline).flatten ++ [(1, [']'])]) := by
  have key : ∀ tail, Visible ('[' :: tail) → LayoutLine.Follows
      { depth := 1, content := memberText "exported_functions".toList ('[' :: tail) }
      (1, "\"exported_functions\": [".toList) := by
    intro tail visible
    obtain ⟨_, _, solid, sound⟩ := follows_member 1 "exported_functions".toList visible
    exact ⟨rfl, ⟨tail, rfl⟩, solid, sound⟩
  cases functions with
  | nil => exact .cons (key [']'] (by decide)) .nil
  | cons signature later =>
    have closing : LayoutLine.Follows { depth := 1, content := [']'] } (1, [']']) :=
      follows_mark 1 (by decide) (by decide)
    exact .cons (key [] (by decide))
      (List.rel_append (functionsLayout_follows (signature :: later)) (.cons closing .nil))

/-- **The lines of a manifest follow the outline.** -/
theorem layout_follows (manifest : Manifest) :
    List.Forall₂ LayoutLine.Follows manifest.layout (outline manifest.functions.length) := by
  have opening : LayoutLine.Follows { depth := 0, content := ['\x7b'] } (0, ['\x7b']) :=
    follows_mark 0 (by decide) (by decide)
  have closing : LayoutLine.Follows { depth := 0, content := ['\x7d'] } (0, ['\x7d']) :=
    follows_mark 0 (by decide) (by decide)
  have version := (follows_member 1 "schema_version".toList
    (visible_ofInt manifest.schemaVersion.toInt)).append visible_comma
  have source := (follows_member 1 "source".toList
    (visible_writeString manifest.source)).append visible_comma
  have timestamp := (follows_member 1 "timestamp".toList
    (visible_writeString manifest.timestamp)).append visible_comma
  refine List.rel_append ?_ (.cons closing .nil)
  exact .cons opening
    (.cons version (.cons source (.cons timestamp (listLayout_follows manifest.functions))))

/-- Every line of a manifest follows some line of the outline. -/
theorem follows_of_mem_layout (manifest : Manifest) :
    ∀ line ∈ manifest.layout, ∃ expected, line.Follows expected := by
  have along := manifest.layout_follows
  generalize manifest.layout = lines, outline manifest.functions.length = expected at along
  induction along with
  | nil => exact fun _ member => by cases member
  | cons here _ ih =>
    intro line member
    rcases List.mem_cons.mp member with rfl | later
    · exact ⟨_, here⟩
    · exact ih line later

/-! ### The lines of the text -/

/-- A line of the layout as it stands in the text, without its newline. -/
def indented (width : Nat) (line : LayoutLine) : Text :=
  indentation width line.depth ++ line.content

theorem visible_indented {line : LayoutLine} {expected : Nat × Text}
    (follows : line.Follows expected) (width : Nat) : Visible (indented width line) := by
  refine Visible.append (fun c member => ?_) follows.visible
  rw [List.eq_of_mem_replicate member]
  decide

theorem render_eq_flatMap_indented (manifest : Manifest) (width : Nat) :
    manifest.render width =
      (manifest.layout.map (indented width)).flatMap fun line => line ++ ['\n'] := by
  rw [render, List.flatMap_map]
  rfl

/-- **The lines of the text are the lines of the layout.** A newline or a carriage return within a
line would be a control character. -/
theorem lines_render (manifest : Manifest) (width : Nat) :
    Text.lines (manifest.render width) = manifest.layout.map (indented width) := by
  rw [render_eq_flatMap_indented]
  refine Text.lines_flatMap_newline fun line member => ?_
  obtain ⟨origin, inside, rfl⟩ := List.mem_map.mp member
  obtain ⟨expected, follows⟩ := manifest.follows_of_mem_layout origin inside
  have visible := visible_indented follows width
  constructor
  · intro newline
    exact absurd (visible '\n' newline) (by decide)
  · intro last
    exact absurd (visible '\r' (List.mem_of_getLast? last)) (by decide)

/-- Newlines are the only control characters of the text. -/
theorem eq_newline_of_mem_render (manifest : Manifest) (width : Nat) :
    ∀ c ∈ manifest.render width, c.toNat < 0x20 → c = '\n' := by
  intro c member control
  rw [render_eq_flatMap_indented] at member
  obtain ⟨line, known, inside⟩ := List.mem_flatMap.mp member
  obtain ⟨origin, found, rfl⟩ := List.mem_map.mp known
  obtain ⟨expected, follows⟩ := manifest.follows_of_mem_layout origin found
  rcases List.mem_append.mp inside with content | ending
  · have := visible_indented follows width c content
    omega
  · exact List.mem_singleton.mp ending

theorem getLast?_render (manifest : Manifest) (width : Nat) :
    (manifest.render width).getLast? = some '\n' := by
  rw [render, layout, List.flatMap_append, List.flatMap_singleton, LayoutLine.render,
    ← List.append_assoc, List.getLast?_concat]

/-! ### Indentation -/

/-- A text with the spaces at the beginning of each line taken away. -/
def withoutIndentation (text : Text) : Text :=
  text.lines.flatMap fun line => line.dropWhile (· == ' ') ++ ['\n']

theorem dropWhile_indented {line : LayoutLine} {expected : Nat × Text}
    (follows : line.Follows expected) (width : Nat) :
    (indented width line).dropWhile (· == ' ') = line.content := by
  obtain ⟨c, rest, shape, solid⟩ := follows.solid
  refine dropWhile_of_stops (fun item member => ?_) ?_
  · rw [List.eq_of_mem_replicate member]
    rfl
  · rw [shape]
    exact stops_cons (beq_false_of_ne solid)

/-- **Without indentation the text is the text of width 0.** -/
theorem withoutIndentation_render (manifest : Manifest) (width : Nat) :
    withoutIndentation (manifest.render width) = manifest.render 0 := by
  rw [withoutIndentation, lines_render, List.flatMap_map, render]
  refine List.flatMap_congr fun line member => ?_
  obtain ⟨expected, follows⟩ := manifest.follows_of_mem_layout line member
  rw [dropWhile_indented follows, LayoutLine.render_eq]
  rfl

/-! ### The whole text -/

/-- A line stands as expected: spaces for its depth, and behind them a text that does not begin with
another space, and begins as expected. -/
def StandsAs (width : Nat) (line : Text) (expected : Nat × Text) : Prop :=
  ∃ c rest, c ≠ ' ' ∧ line = List.replicate (width * expected.1) ' ' ++ c :: rest ∧
    expected.2 <+: c :: rest

theorem standsAs_indented {line : LayoutLine} {expected : Nat × Text}
    (follows : line.Follows expected) (width : Nat) :
    StandsAs width (indented width line) expected := by
  obtain ⟨c, rest, shape, solid⟩ := follows.solid
  refine ⟨c, rest, solid, ?_, shape ▸ follows.starts⟩
  rw [indented, indentation, shape, follows.depth, Nat.mul_comm]

/-- A text is laid out for the given number of functions and width of indentation. -/
structure LaidOut (text : Text) (count width : Nat) : Prop where
  /-- Newlines are the only characters below U+0020. -/
  control : ∀ c ∈ text, c.toNat < 0x20 → c = '\n'
  ended : text.getLast? = some '\n'
  /-- The text is its lines, each of them ended by a newline. -/
  whole : text = text.lines.flatMap fun line => line ++ ['\n']
  single : ∀ line ∈ text.lines, '\n' ∉ line
  length : text.lines.length = if count = 0 then 6 else 7 + 5 * count
  /-- The lines have the depths and the beginnings of the outline, in its order. -/
  outlined : List.Forall₂ (StandsAs width) text.lines (outline count)

/-- **No content can break the lines of a manifest.** Whatever a manifest holds and whatever the
width of indentation, its text has no control characters but newlines, ends with one, and has the
lines of the outline for the number of its functions: 6 lines without functions, and otherwise 7
lines and 5 for each function. Each line is indented by its depth, and without the indentation the
text is the same for every width. -/
theorem render_laidOut (manifest : Manifest) (width : Nat) :
    LaidOut (manifest.render width) manifest.functions.length width ∧
      ∀ other, withoutIndentation (manifest.render other) =
        withoutIndentation (manifest.render width) := by
  have lines := manifest.lines_render width
  have outlined : List.Forall₂ (StandsAs width) (Text.lines (manifest.render width))
      (outline manifest.functions.length) := by
    rw [lines, List.forall₂_map_left_iff]
    exact manifest.layout_follows.imp fun _ _ follows => standsAs_indented follows width
  refine ⟨⟨manifest.eq_newline_of_mem_render width, manifest.getLast?_render width, ?_,
    fun _ => Text.not_mem_of_mem_lines, ?_, outlined⟩, fun other => ?_⟩
  · rw [lines]
    exact manifest.render_eq_flatMap_indented width
  · rw [outlined.length_eq, length_outline]
  · rw [withoutIndentation_render, withoutIndentation_render]

-- The newlines, quotes and brackets of these texts add no line to the twelve.
example :
    (Text.lines (render
      { schemaVersion := -1, source := "\"\n\x7d".toList, timestamp := "\x00".toList,
        functions := [{ name := "[\"".toList, returnType := "\r\n".toList, args := "]\n".toList }] }
      2)).length = 12 := by
  decide +kernel

end Manifest

end ExportManifest
