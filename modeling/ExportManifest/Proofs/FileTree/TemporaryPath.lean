/-
**Where the temporary file of an output stands.**

The path of the temporary file is written anew, as a text, from the names of the output's path, and
it is read as a path again each time the system gets it. Read back, it has the parent of the output
and the name of the temporary file as its last name.

* `names_append_slash`: **the names of a path split at a slash**; the other facts about names
  follow from it.
* `parent?_temporaryPath`: the temporary file has the parent of its output.
* `locate_unfollowed_iff`: a path that ends in an entry's name leads, its last name not followed, to
  the entry it names.
-/

import ExportManifest.Proofs.FileTree.Publication

namespace ExportManifest

/-! ### Pieces -/

theorem Text.pieces_ne_nil (separator : Char) (text : Text) : text.pieces separator ≠ [] := by
  cases text with
  | nil => exact List.cons_ne_nil _ _
  | cons c rest =>
    rw [pieces]
    split
    · exact List.cons_ne_nil _ _
    · split <;> exact List.cons_ne_nil _ _

/-- The pieces of a text split at a separator. -/
theorem Text.pieces_append_separator (separator : Char) (before after : Text) :
    pieces separator (before ++ separator :: after) =
      pieces separator before ++ pieces separator after := by
  induction before with
  | nil => simp [pieces]
  | cons c rest ih =>
    rw [List.cons_append, pieces, pieces, ih]
    by_cases same : c = separator
    · rw [if_pos same, if_pos same, List.cons_append]
    · rw [if_neg same, if_neg same]
      obtain ⟨piece, later, shape⟩ := List.exists_cons_of_ne_nil (pieces_ne_nil separator rest)
      rw [shape, List.cons_append]
      rfl

theorem Text.pieces_of_not_mem {separator : Char} {text : Text} (absent : separator ∉ text) :
    text.pieces separator = [text] := by
  induction text with
  | nil => rfl
  | cons c rest ih =>
    rw [List.mem_cons, not_or] at absent
    rw [pieces, if_neg (Ne.symm absent.1), ih absent.2]

theorem Text.not_mem_of_mem_pieces {separator : Char} {text piece : Text}
    (member : piece ∈ text.pieces separator) : separator ∉ piece := by
  induction text generalizing piece with
  | nil =>
    rw [pieces, List.mem_singleton] at member
    simp [member]
  | cons c rest ih =>
    rw [pieces] at member
    split at member
    · rcases List.mem_cons.mp member with rfl | later
      · simp
      · exact ih later
    · rename_i different
      obtain ⟨first, others, shape⟩ := List.exists_cons_of_ne_nil (pieces_ne_nil separator rest)
      rw [shape] at member ih
      rcases List.mem_cons.mp member with rfl | later
      · rw [List.mem_cons, not_or]
        exact ⟨Ne.symm different, ih (by simp)⟩
      · exact ih (List.mem_cons_of_mem _ later)

/-! ### Names -/

namespace Path

/-- A text that can be a name of a path: not empty, and without slash. -/
structure IsName (name : Text) : Prop where
  nonempty : name ≠ []
  plain : '/' ∉ name

theorem isName_of_mem {text name : Text} (member : name ∈ (ofText text).names) : IsName name := by
  obtain ⟨piece, nonempty⟩ := List.mem_filter.mp member
  exact ⟨by simpa using nonempty, Text.not_mem_of_mem_pieces piece⟩

/-- **The names of a path split at a slash.** -/
theorem names_append_slash (before after : Text) :
    (ofText (before ++ '/' :: after)).names = (ofText before).names ++ (ofText after).names := by
  simp only [ofText]
  rw [Text.pieces_append_separator, List.filter_append]

theorem names_isName {name : Text} (proper : IsName name) : (ofText name).names = [name] := by
  simp only [ofText]
  rw [Text.pieces_of_not_mem proper.plain]
  simp [proper.nonempty]

theorem names_intercalate {names : List Text} (proper : ∀ name ∈ names, IsName name) :
    (ofText (['/'].intercalate names)).names = names := by
  induction names with
  | nil => rfl
  | cons name later ih =>
    have first := names_isName (proper name (by simp))
    cases later with
    | nil => simpa [List.intercalate] using first
    | cons next rest =>
      have shape : ['/'].intercalate (name :: next :: rest) =
          name ++ '/' :: ['/'].intercalate (next :: rest) := by
        simp [List.intercalate]
      rw [shape, names_append_slash, first, ih fun other member => proper other (by simp [member])]
      rfl

theorem head?_intercalate {names : List Text} (proper : ∀ name ∈ names, IsName name) :
    (['/'].intercalate names).head? ≠ some '/' := by
  cases names with
  | nil => simp [List.intercalate]
  | cons name later =>
    obtain ⟨c, rest, shape⟩ := List.exists_cons_of_ne_nil (proper name (by simp)).nonempty
    have plain := (proper name (by simp)).plain
    rw [shape, List.mem_cons, not_or] at plain
    cases later with
    | nil =>
      simp only [List.intercalate, List.intersperse, List.flatten_singleton, shape,
        List.head?_cons, ne_eq, Option.some.injEq]
      exact Ne.symm plain.1
    | cons next others =>
      simp only [List.intercalate, List.intersperse, List.flatten_cons, shape, List.cons_append,
        List.head?_cons, ne_eq, Option.some.injEq]
      exact Ne.symm plain.1

/-! ### A name below a directory -/

/-- What is joined to a directory follows a slash, and what precedes the slash has the names of the
directory and starts like it. -/
theorem join_shape {directory : Text} (given : directory ≠ []) (name : Text) :
    ∃ front, join directory name = front ++ '/' :: name ∧
      (ofText front).names = (ofText directory).names ∧
      (front ++ ['/']).head? = directory.head? := by
  unfold join
  by_cases ends : directory.getLast? = some '/'
  · obtain ⟨front, rfl⟩ := List.getLast?_eq_some_iff.mp ends
    refine ⟨front, by simp, ?_, rfl⟩
    have split := names_append_slash front []
    rw [split]
    exact (List.append_nil _).symm
  · refine ⟨directory, by simp [ends, given], rfl, ?_⟩
    obtain ⟨c, rest, rfl⟩ := List.exists_cons_of_ne_nil given
    rfl

/-- **A name below a directory** is one name more, with no slash behind it. -/
theorem ofText_join {directory name : Text} (given : directory ≠ []) (proper : IsName name) :
    ofText (join directory name) =
      { absolute := (ofText directory).absolute
        names := (ofText directory).names ++ [name]
        slashed := false } := by
  obtain ⟨front, shape, sameNames, sameHead⟩ := join_shape given name
  have names : (ofText (join directory name)).names = (ofText directory).names ++ [name] := by
    rw [shape, names_append_slash, sameNames, names_isName proper]
  have absolute : (ofText (join directory name)).absolute = (ofText directory).absolute := by
    simp only [ofText]
    rw [shape, ← sameHead]
    cases front <;> rfl
  have slashed : (ofText (join directory name)).slashed = false := by
    have last : (front ++ '/' :: name).getLast? = name.getLast? := by
      obtain ⟨c, rest, rfl⟩ := List.exists_cons_of_ne_nil proper.nonempty
      rw [List.getLast?_append, List.getLast?_cons_cons]
      simp [List.getLast?_cons]
    have plain : name.getLast? ≠ some '/' := fun ends =>
      proper.plain (List.mem_of_getLast? ends)
    simp only [ofText]
    rw [shape, last]
    simpa using plain
  rw [← names, ← absolute, ← slashed]

/-! ### The directory of a path -/

/-- The names on the way to the file name of a path. -/
theorem mem_dropLast_properNames {path : Path} {name : Text}
    (member : name ∈ path.properNames.dropLast) : name ∈ path.names ∧ name ≠ here := by
  obtain ⟨inside, other⟩ := List.mem_filter.mp (List.dropLast_subset _ member)
  exact ⟨inside, by simpa using other⟩

theorem directory_ne_nil (text : Text) : (ofText text).directory ≠ [] := by
  unfold directory
  simp only
  split
  · exact List.cons_ne_nil _ _
  · split
    · exact List.cons_ne_nil _ _
    · rename_i some
      obtain ⟨name, later, shape⟩ := List.exists_cons_of_ne_nil (by simpa using some)
      have member : name ∈ (ofText text).properNames.dropLast := by simp [shape]
      have nonempty := (isName_of_mem (mem_dropLast_properNames member).1).nonempty
      rw [shape]
      cases later <;> simp [List.intercalate, List.intersperse, nonempty]

/-- **The directory of a path** starts where the path starts, and has its names up to the file
name, up to names `.`. -/
theorem ofText_directory (text : Text) :
    (ofText (ofText text).directory).absolute = (ofText text).absolute ∧
      FileTree.withoutDots (ofText (ofText text).directory).names =
        (ofText text).properNames.dropLast := by
  have proper : ∀ name ∈ (ofText text).properNames.dropLast, IsName name := fun name member =>
    isName_of_mem (mem_dropLast_properNames member).1
  have dotless : FileTree.withoutDots (ofText text).properNames.dropLast =
      (ofText text).properNames.dropLast :=
    List.filter_eq_self.mpr fun name member => by simp [(mem_dropLast_properNames member).2]
  have relative := head?_intercalate proper
  have names := names_intercalate proper
  unfold directory
  simp only
  generalize (ofText text).properNames.dropLast = parents at *
  cases absolute : (ofText text).absolute with
  | true =>
    refine ⟨rfl, ?_⟩
    have split := names_append_slash [] (['/'].intercalate parents)
    rw [if_pos rfl]
    rw [List.nil_append, names] at split
    rw [split]
    exact dotless
  | false =>
    rw [if_neg (by simp)]
    by_cases none : parents = []
    · subst none
      exact ⟨rfl, rfl⟩
    · rw [if_neg (by simpa using none), names]
      exact ⟨by simpa [ofText] using relative, dotless⟩

end Path

namespace FileTree

/-! ### Entries by their names -/

/-- **A path that ends in an entry's name leads to the entry it names**, if that name is not
followed and the path is one that the system takes. -/
theorem locate_unfollowed_iff {tree : FileTree} {path name : Text} {location : Location}
    (unslashed : (Path.ofText path).slashed = false)
    (last : (Path.ofText path).names.getLast? = some name) (proper : IsEntryName name) :
    tree.locate .unfollowed path = .ok location ↔
      pathFault? path = none ∧ Utf8.size name ≤ nameLimit ∧
        tree.namedLocation? path = some location := by
  have steps : (Path.ofText path).steps = (Path.ofText path).names.dropLast ++ [name] := by
    obtain ⟨front, shape⟩ := List.getLast?_eq_some_iff.mp last
    rw [Path.steps, unslashed, shape, List.dropLast_concat]
    rfl
  rw [locate_eq_ok_iff, steps, walk_unfollowed_snoc proper, namedLocation?_eq_some_iff last proper]
  refine and_congr_right fun _ => ?_
  constructor
  · rintro ⟨directory, reached, fits, rfl⟩
    exact ⟨fits, directory, reached, rfl⟩
  · rintro ⟨fits, directory, reached, rfl⟩
    exact ⟨directory, reached, fits, rfl⟩

/-! ### Temporary files -/

theorem temporaryName_isEntryName (name tag : Text) : IsEntryName (temporaryName name tag) := by
  have long : 2 < (temporaryName name tag).length := by
    simp only [temporaryName, List.length_append, List.length_singleton]
    have extension : ".tmp".toList.length = 4 := rfl
    omega
  constructor <;>
  · intro same
    rw [same] at long
    exact absurd long (by decide)

theorem temporaryName_isName {name tag : Text} (proper : Path.IsName name) (plain : '/' ∉ tag) :
    Path.IsName (temporaryName name tag) := by
  refine ⟨by simp [temporaryName], ?_⟩
  simp [temporaryName, proper.plain, plain]

/-- **What the path of a temporary file says**: the parent of the output, and then the name of the
temporary file. -/
theorem ofText_temporaryPath {path tag temporary : Text} (plain : '/' ∉ tag)
    (made : temporaryPath? path tag = some temporary) :
    ∃ name, (Path.ofText path).fileName? = some name ∧
      (Path.ofText temporary).slashed = false ∧
      (Path.ofText temporary).absolute = (Path.ofText path).absolute ∧
      (Path.ofText temporary).names.getLast? = some (temporaryName name tag) ∧
      parentNames temporary = parentNames path := by
  unfold temporaryPath? at made
  obtain ⟨name, named, rfl⟩ := Option.map_eq_some_iff.mp made
  have member : name ∈ (Path.ofText path).names := by
    unfold Path.fileName? at named
    split at named
    · rename_i last found
      split at named
      · cases named
      · cases named
        exact (List.mem_filter.mp (List.mem_of_getLast? found)).1
    · cases named
  have proper := temporaryName_isName (Path.isName_of_mem member) plain
  have entry := temporaryName_isEntryName name tag
  have read := Path.ofText_join (Path.directory_ne_nil path) proper
  obtain ⟨absolute, names⟩ := Path.ofText_directory path
  have last : (Path.ofText (Path.join (Path.ofText path).directory
      (temporaryName name tag))).names.getLast? = some (temporaryName name tag) := by
    rw [read, List.getLast?_concat]
  refine ⟨name, named, by rw [read], by rw [read, absolute], last, ?_⟩
  rw [(fileName?_of_last last entry.notHere entry.notAbove).2, read, List.dropLast_concat, names]
  rfl

/-- The temporary file stands in the directory of its output. -/
theorem parent?_temporaryPath {tree : FileTree} {path tag temporary : Text} (plain : '/' ∉ tag)
    (made : temporaryPath? path tag = some temporary) :
    tree.parent? temporary = tree.parent? path := by
  obtain ⟨_, _, _, absolute, _, parents⟩ := ofText_temporaryPath plain made
  unfold parent? Path.start
  rw [absolute, parents]

/-- **Where a temporary file stands**: under its name in the parent of the output, if the system
takes that name and the path it is the last of. -/
theorem locate_temporaryPath_iff {tree : FileTree} {path tag temporary name : Text}
    {location : Location} (plain : '/' ∉ tag) (made : temporaryPath? path tag = some temporary)
    (named : (Path.ofText path).fileName? = some name) :
    tree.locate .unfollowed temporary = .ok location ↔
      pathFault? temporary = none ∧ Utf8.size (temporaryName name tag) ≤ nameLimit ∧
        ∃ directory, tree.parent? path = some directory ∧
          location = directory ++ [temporaryName name tag] := by
  obtain ⟨found, same, unslashed, _, last, _⟩ := ofText_temporaryPath plain made
  obtain rfl : name = found := Option.some.inj (named.symm.trans same)
  have proper := temporaryName_isEntryName name tag
  rw [locate_unfollowed_iff unslashed last proper, namedLocation?,
    (fileName?_of_last last proper.notHere proper.notAbove).1, parent?_temporaryPath plain made]
  cases tree.parent? path with
  | none => simp
  | some directory => simp [eq_comm]

/-- **The place of a temporary file depends only on the parent of its output.** -/
theorem locate_temporaryPath_congr {before after : FileTree} {path tag temporary : Text}
    (plain : '/' ∉ tag) (made : temporaryPath? path tag = some temporary)
    (sameParent : after.parent? path = before.parent? path) (location : Location) :
    after.locate .unfollowed temporary = .ok location ↔
      before.locate .unfollowed temporary = .ok location := by
  obtain ⟨name, named, _⟩ := ofText_temporaryPath plain made
  rw [locate_temporaryPath_iff plain made named, locate_temporaryPath_iff plain made named,
    sameParent]

end FileTree

end ExportManifest
