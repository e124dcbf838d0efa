/-
**What setting and taking away an entry does to a tree.**

The view of a tree is `find?`: the entry at every location. `put` and `erase` act at one location
and leave every other as it is; the root is no entry, so their own location is below it.

* `erase_put`: **taking away an entry that was just added gives back the very same tree**, order of
  the entries included. It holds because a new entry comes last and nothing else stands there.
* `isDirectory_put_file`, `isDirectory_erase`: setting a file where no directory stands, and taking
  away what is no directory, keep every directory and make none.
-/

import ExportManifest.FileTree.Publish

namespace ExportManifest.FileTree

/-! ### Entries as a list -/

theorem lookup_setEntry_same (location : Location) (entry : Entry)
    (entries : List (Location × Entry)) :
    (setEntry location entry entries).lookup location = some entry := by
  induction entries with
  | nil => simp [setEntry]
  | cons first later ih =>
    obtain ⟨place, present⟩ := first
    by_cases same : place = location
    · rw [setEntry, if_pos same, List.lookup_cons_self]
    · have apart : (location == place) = false := beq_false_of_ne (Ne.symm same)
      rw [setEntry, if_neg same, List.lookup_cons, apart]
      exact ih

theorem lookup_setEntry_other {location other : Location} (different : other ≠ location)
    (entry : Entry) (entries : List (Location × Entry)) :
    (setEntry location entry entries).lookup other = entries.lookup other := by
  have apart : (other == location) = false := beq_false_of_ne different
  induction entries with
  | nil => rw [setEntry, List.lookup_cons, apart]
  | cons first later ih =>
    obtain ⟨place, present⟩ := first
    by_cases same : place = location
    · rw [setEntry, if_pos same, List.lookup_cons, List.lookup_cons, same, apart]
    · rw [setEntry, if_neg same, List.lookup_cons, List.lookup_cons, ih]

/-- Nothing is looked up at a location exactly if no entry is there. -/
theorem lookup_eq_none_iff_forall {location : Location} {entries : List (Location × Entry)} :
    entries.lookup location = none ↔ ∀ entry ∈ entries, entry.1 ≠ location := by
  rw [List.lookup_eq_none_iff]
  refine forall₂_congr fun entry _ => ?_
  rw [bne_iff_ne]
  exact ne_comm

theorem setEntry_absent {location : Location} (entry : Entry)
    {entries : List (Location × Entry)} (absent : ∀ present ∈ entries, present.1 ≠ location) :
    setEntry location entry entries = entries ++ [(location, entry)] := by
  induction entries with
  | nil => rfl
  | cons first later ih =>
    rw [setEntry, if_neg (absent first (by simp)),
      ih fun present member => absent present (by simp [member])]
    rfl

theorem setEntry_setEntry (location : Location) (first second : Entry)
    (entries : List (Location × Entry)) :
    setEntry location second (setEntry location first entries) =
      setEntry location second entries := by
  induction entries with
  | nil => simp [setEntry]
  | cons head later ih =>
    by_cases same : head.1 = location
    · simp [setEntry, same]
    · simp [setEntry, same, ih]

theorem lookup_filter_other {location other : Location} (different : other ≠ location)
    (entries : List (Location × Entry)) :
    (entries.filter fun entry => entry.1 ≠ location).lookup other = entries.lookup other := by
  induction entries with
  | nil => rfl
  | cons first later ih =>
    obtain ⟨place, present⟩ := first
    by_cases same : place = location
    · have apart : (other == place) = false := by
        rw [same]
        exact beq_false_of_ne different
      rw [List.filter_cons_of_neg (by simp [same]), ih, List.lookup_cons, apart]
    · rw [List.filter_cons_of_pos (by simp [same]), List.lookup_cons, List.lookup_cons, ih]

/-! ### The view after an operation -/

/-- Only the root stands where no entry can be missing. -/
theorem ne_root_of_find?_none {tree : FileTree} {location : Location}
    (absent : tree.find? location = none) : location ≠ [] := by
  rintro rfl
  cases absent

theorem ne_root_of_not_directory {tree : FileTree} {location : Location}
    (noDirectory : tree.isDirectory location = false) : location ≠ [] := by
  rintro rfl
  cases noDirectory

theorem find?_below {tree : FileTree} {location : Location} (below : location ≠ []) :
    tree.find? location = tree.entries.lookup location := by
  rw [find?, if_neg (by simpa using below)]

theorem find?_put_same (tree : FileTree) {location : Location} (below : location ≠ [])
    (entry : Entry) : (tree.put location entry).find? location = some entry := by
  rw [find?_below below]
  exact lookup_setEntry_same location entry tree.entries

theorem find?_put_other (tree : FileTree) {location other : Location} (different : other ≠ location)
    (entry : Entry) : (tree.put location entry).find? other = tree.find? other := by
  by_cases root : other = []
  · subst root
    rfl
  · rw [find?_below root, find?_below root]
    exact lookup_setEntry_other different entry tree.entries

theorem find?_erase_same (tree : FileTree) {location : Location} (below : location ≠ []) :
    (tree.erase location).find? location = none := by
  rw [find?_below below, lookup_eq_none_iff_forall]
  intro entry member
  simpa using (List.mem_filter.mp member).2

theorem find?_erase_other (tree : FileTree) {location other : Location}
    (different : other ≠ location) : (tree.erase location).find? other = tree.find? other := by
  by_cases root : other = []
  · subst root
    rfl
  · rw [find?_below root, find?_below root]
    exact lookup_filter_other different tree.entries

theorem isDirectory_eq_false_of_none {tree : FileTree} {location : Location}
    (absent : tree.find? location = none) : tree.isDirectory location = false := by
  rw [isDirectory, absent]

theorem isDirectory_eq_false_of_file {tree : FileTree} {location : Location} {bytes : List UInt8}
    (file : tree.find? location = some (.file bytes)) : tree.isDirectory location = false := by
  rw [isDirectory, file]

theorem isDirectory_congr {first second : FileTree} {location : Location}
    (same : first.find? location = second.find? location) :
    first.isDirectory location = second.isDirectory location := by
  rw [isDirectory, isDirectory, same]

/-- A file set where no directory stands changes no directory. -/
theorem isDirectory_put_file {tree : FileTree} {location : Location}
    (noDirectory : tree.isDirectory location = false) (bytes : List UInt8) (other : Location) :
    (tree.put location (.file bytes)).isDirectory other = tree.isDirectory other := by
  by_cases same : other = location
  · subst same
    rw [noDirectory]
    exact isDirectory_eq_false_of_file
      (find?_put_same tree (ne_root_of_not_directory noDirectory) _)
  · exact isDirectory_congr (find?_put_other tree same _)

/-- Taking away what is no directory changes no directory. -/
theorem isDirectory_erase {tree : FileTree} {location : Location}
    (noDirectory : tree.isDirectory location = false) (other : Location) :
    (tree.erase location).isDirectory other = tree.isDirectory other := by
  by_cases same : other = location
  · subst same
    rw [noDirectory]
    exact isDirectory_eq_false_of_none
      (find?_erase_same tree (ne_root_of_not_directory noDirectory))
  · exact isDirectory_congr (find?_erase_other tree same)

/-! ### Operations after one another -/

theorem put_put (tree : FileTree) (location : Location) (first second : Entry) :
    (tree.put location first).put location second = tree.put location second := by
  simp only [put]
  rw [setEntry_setEntry]

/-- **Taking away an entry that was just added gives back the very same tree.** -/
theorem erase_put {tree : FileTree} {location : Location} (fresh : tree.find? location = none)
    (entry : Entry) : (tree.put location entry).erase location = tree := by
  rw [find?_below (ne_root_of_find?_none fresh), lookup_eq_none_iff_forall] at fresh
  have kept : tree.entries.filter (fun present => present.1 ≠ location) = tree.entries :=
    List.filter_eq_self.mpr fun present member => by simp [fresh present member]
  unfold put erase
  simp only
  rw [setEntry_absent entry fresh, List.filter_append, kept]
  simp

/-- Bytes are added at the end of the file that was just set. -/
theorem append_put (tree : FileTree) {location : Location} (below : location ≠ [])
    (before bytes : List UInt8) :
    (tree.put location (.file before)).append location bytes =
      tree.put location (.file (before ++ bytes)) := by
  rw [append, find?_put_same tree below]
  exact put_put tree location _ _

end ExportManifest.FileTree
