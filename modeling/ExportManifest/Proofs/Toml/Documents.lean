/-
**Documents with one statement on each line.**

A line of a plain document is the header of a table, or a bare key, an equals sign and a value. A
document is read line by line, however its lines end, and its tables are those that one expects: the
pairs before the header are members of the document, and those behind it members of the table.

* `readKey_bare`: a bare key ends at the first character that cannot stand in it.
* `readStatement_spells`: **a statement is read from its line**.
* `statements?_lines`: a document is read as the statements of its lines.
* `foldlM_ofPair`: pairs with distinct keys are all kept, in their order, wherever they go to.
* `Members.ofStatements?_table`: the tables of such statements with one header among them.
* `parse?_lines`: the members of a document with one header.
-/

import ExportManifest.Proofs.Toml.Scalars
import ExportManifest.Toml.Document
import Mathlib.Data.List.Forall2

namespace ExportManifest.Toml

/-! ### Keys -/

/-- A key that needs no quotes. -/
def IsBare (key : Text) : Prop :=
  key ≠ [] ∧ ∀ c ∈ key, isBareChar c = true

instance : DecidablePred IsBare := fun key =>
  decidable_of_iff ((!key.isEmpty && key.all isBareChar) = true) (by simp [IsBare])

theorem ne_of_isBareChar {c mark : Char} (bare : isBareChar c = true)
    (other : isBareChar mark = false) : c ≠ mark := by
  rintro rfl
  rw [bare] at other
  cases other

theorem isGap_of_isBareChar {c : Char} (bare : isBareChar c = true) : Text.isGap c = false := by
  have noSpace : c ≠ ' ' := ne_of_isBareChar bare rfl
  have noTab : c ≠ '\t' := ne_of_isBareChar bare rfl
  simp [Text.isGap, noSpace, noTab]

theorem skipGaps_of_not_isGap {c : Char} (visible : Text.isGap c = false) (later : Text) :
    skipGaps (c :: later) = c :: later :=
  List.dropWhile_cons_of_neg (by simp [visible])

/-- **A bare key is read whole**, up to a character that cannot stand in it and, behind gaps, no
dot. -/
theorem readKey_bare {key rest : Text} (bare : IsBare key) (stops : Stops isBareChar rest)
    (noDot : (skipGaps rest).head? ≠ some '.') :
    readKey (key ++ rest) = some ([], key, skipGaps rest) := by
  obtain ⟨nonempty, inside⟩ := bare
  obtain ⟨c, later, rfl⟩ := List.exists_cons_of_ne_nil nonempty
  have first := inside c List.mem_cons_self
  have name : readName (c :: later ++ rest) = some (c :: later, rest) := by
    rw [List.cons_append, readName, ← List.cons_append, takeWhile_of_stops inside stops,
      dropWhile_of_stops inside stops]
    · rfl
    · exact fun _ same => ne_of_isBareChar first rfl (List.cons.inj same).1
    · exact fun _ same => ne_of_isBareChar first rfl (List.cons.inj same).1
  have names : ∀ steps, readNames (steps + 1) (c :: later ++ rest) =
      some ([c :: later], skipGaps rest) := by
    intro steps
    have start : skipGaps (c :: later ++ rest) = c :: later ++ rest :=
      skipGaps_of_not_isGap (isGap_of_isBareChar first) _
    rw [readNames, start, name]
    simp only [Option.bind_eq_bind, Option.bind_some]
    split
    · rename_i dotted
      rw [dotted] at noDot
      exact absurd rfl noDot
    · rfl
  unfold readKey
  rw [show nestingLimit - 1 = 78 + 1 from rfl, names]
  rfl

/-! ### Statements -/

/-- The line that gives a value to a key. -/
def pairLine (key value : Text) : Text :=
  key ++ (" = ".toList ++ value)

/-- How a pair of a key and a value is written. -/
def SpellsPair (pair : Text × Node) (line : Text) : Prop :=
  IsBare pair.1 ∧ ∃ value, Spells pair.2 value ∧ line = pairLine pair.1 value

/-- The line that opens a table. -/
def headerLine (key : Text) : Text :=
  '[' :: (key ++ [']'])

/-- The statement of a pair whose key has one name. -/
def Statement.ofPair (pair : Text × Node) : Statement :=
  .pair [] pair.1 pair.2

/-- How a statement is written on a line of its own. -/
inductive SpellsStatement : Statement → Text → Prop
  | pair {pair : Text × Node} {line : Text} (spelled : SpellsPair pair line) :
    SpellsStatement (.ofPair pair) line
  | header {key : Text} (bare : IsBare key) :
    SpellsStatement (.tableHeader [] key) (headerLine key)

/-- A line begins with its key or with the bracket of its header. -/
theorem SpellsStatement.eq_cons {statement : Statement} {line : Text}
    (spelled : SpellsStatement statement line) :
    ∃ c later, line = c :: later ∧ (isBareChar c = true ∨ c = '[') := by
  cases spelled with
  | pair spelled =>
    obtain ⟨⟨nonempty, inside⟩, value, _, rfl⟩ := spelled
    obtain ⟨c, later, shape⟩ := List.exists_cons_of_ne_nil nonempty
    refine ⟨c, later ++ (" = ".toList ++ value), ?_, Or.inl (inside c ?_)⟩
    · rw [pairLine, shape]
      rfl
    · rw [shape]
      exact List.mem_cons_self
  | header bare => exact ⟨'[', _, rfl, Or.inr rfl⟩

/-- What a line does not begin with. -/
theorem SpellsStatement.head_ne {statement : Statement} {c mark : Char} {later : Text}
    (spelled : SpellsStatement statement (c :: later)) (noBare : isBareChar mark = false)
    (noBracket : mark ≠ '[') : c ≠ mark := by
  obtain ⟨_, _, same, start⟩ := spelled.eq_cons
  obtain ⟨rfl, rfl⟩ := List.cons.inj same
  rcases start with bare | rfl
  · exact ne_of_isBareChar bare noBare
  · exact noBracket.symm

/-- **A statement is read from its line.** -/
theorem readStatement_spells {statement : Statement} {line rest : Text}
    (spelled : SpellsStatement statement line) (ends : LineEnds rest) :
    readStatement (line ++ rest) = some (statement, rest) := by
  cases spelled with
  | @pair pair line spelled =>
    obtain ⟨key, node⟩ := pair
    obtain ⟨bare, value, spelled, rfl⟩ := spelled
    simp only at bare spelled ⊢
    obtain ⟨c, later, shape⟩ := List.exists_cons_of_ne_nil bare.1
    have noBracket : c ≠ '[' :=
      ne_of_isBareChar (bare.2 c (by rw [shape]; exact List.mem_cons_self)) rfl
    have keyRead : readKey (key ++ (" = ".toList ++ value ++ rest)) =
        some ([], key, '=' :: ' ' :: (value ++ rest)) :=
      readKey_bare bare (stops_cons rfl) (by exact nofun)
    have valueRead : ∀ steps depth,
        readValue (steps + 1) depth (skipGaps (' ' :: (value ++ rest))) = some (node, rest) := by
      intro steps depth
      obtain ⟨d, others, start, visible⟩ := spelled.eq_cons
      have gap : skipGaps (' ' :: (value ++ rest)) = value ++ rest := by
        rw [start]
        exact skipGaps_of_not_isGap visible (others ++ rest)
      rw [gap]
      exact readValue_spells spelled ends steps depth
    rw [pairLine, List.append_assoc]
    rw [shape] at keyRead ⊢
    rw [List.cons_append] at keyRead ⊢
    rw [readStatement, keyRead]
    · simp only [Option.bind_eq_bind, Option.bind_some, valueRead]
      rfl
    · exact fun _ same => noBracket (List.cons.inj same).1
    · exact fun _ same => noBracket (List.cons.inj same).1
  | @header key bare =>
    have keyRead : readKey (key ++ ']' :: rest) = some ([], key, ']' :: rest) :=
      readKey_bare bare (stops_cons rfl) (by exact nofun)
    obtain ⟨c, later, shape⟩ := List.exists_cons_of_ne_nil bare.1
    have noBracket : c ≠ '[' :=
      ne_of_isBareChar (bare.2 c (by rw [shape]; exact List.mem_cons_self)) rfl
    rw [headerLine, List.cons_append, List.append_assoc, List.singleton_append, readStatement,
      keyRead]
    · rfl
    · intro _ same
      rw [shape] at same
      exact noBracket (List.cons.inj same).1

/-! ### Lines -/

theorem readLineEnd_lineEnds {rest : Text} (ends : LineEnds rest) :
    readLineEnd rest = some (rest.drop 1) := by
  cases rest with
  | nil => rfl
  | cons c later =>
    obtain rfl := ends c rfl
    rfl

/-- One line takes one step. -/
theorem readStatements_line {statement : Statement} {line rest : Text}
    (spelled : SpellsStatement statement line) (ends : LineEnds rest) (steps : Nat) :
    readStatements (steps + 1) (line ++ rest) =
      (readStatements steps (rest.drop 1)).map (statement :: ·) := by
  have read := readStatement_spells spelled ends
  obtain ⟨c, later, rfl, start⟩ := spelled.eq_cons
  have visible : Text.isGap c = false := by
    rcases start with bare | rfl
    · exact isGap_of_isBareChar bare
    · rfl
  rw [List.cons_append] at read ⊢
  rw [readStatements, skipGaps_of_not_isGap visible]
  split
  · rename_i none
    cases none
  · rename_i same
    exact absurd (List.cons.inj same).1 (spelled.head_ne rfl (by decide))
  · rename_i same
    exact absurd (List.cons.inj same).1 (spelled.head_ne rfl (by decide))
  · rw [read]
    simp only [Option.bind_eq_bind, Option.bind_some, readLineEnd_lineEnds ends]
    exact Option.map_eq_bind.symm

theorem unifyNewlines_cons {c : Char} {rest : Text}
    (alone : ¬ (c = '\r' ∧ rest.head? = some '\n')) :
    unifyNewlines (c :: rest) = c :: unifyNewlines rest := by
  rw [unifyNewlines]
  rintro later rfl rfl
  exact alone ⟨rfl, rfl⟩

theorem unifyNewlines_terminated {line : Text} (free : '\n' ∉ line) (later : Text) :
    unifyNewlines (line ++ '\n' :: later) =
      withoutFinal '\r' line ++ '\n' :: unifyNewlines later := by
  induction line with
  | nil => rfl
  | cons c rest ih =>
    have freeRest := List.not_mem_of_not_mem_cons free
    by_cases returns : rest = [] ∧ c = '\r'
    · obtain ⟨rfl, rfl⟩ := returns
      rfl
    · rw [List.cons_append, unifyNewlines_cons (Text.alone_of_free freeRest returns later),
        ih freeRest, withoutFinal_cons (Classical.not_and_iff_not_or_not.mp returns)]
      rfl

theorem unifyNewlines_unbroken {line : Text} (free : '\n' ∉ line) :
    unifyNewlines line = line := by
  induction line with
  | nil => rfl
  | cons c rest ih =>
    have freeRest := List.not_mem_of_not_mem_cons free
    rw [unifyNewlines_cons fun behind => freeRest (List.mem_of_mem_head? behind.2), ih freeRest]

/-- The statements of a document are those of its lines, one after the other. -/
theorem readStatements_lines {document : Text} {statements : List Statement}
    (spelled : List.Forall₂ SpellsStatement statements document.lines) {steps : Nat}
    (enough : (unifyNewlines document).length < steps) :
    readStatements steps (unifyNewlines document) = some statements := by
  induction document using breakInduction '\n' generalizing statements steps with
  | last line free =>
    obtain ⟨more, rfl⟩ := Nat.exists_eq_succ_of_ne_zero (Nat.ne_zero_of_lt enough)
    rw [unifyNewlines_unbroken free] at enough ⊢
    rw [Text.lines_unbroken free] at spelled
    split at spelled
    · rename_i empty
      cases spelled
      rw [empty]
      rfl
    · rename_i nonempty
      obtain ⟨statement, _, first, none, rfl⟩ := List.forall₂_cons_right_iff.mp spelled
      cases none
      have taken := List.length_pos_iff.mpr nonempty
      obtain ⟨others, rfl⟩ := Nat.exists_eq_succ_of_ne_zero (n := more) (by omega)
      have read := readStatements_line first lineEnds_nil (others + 1)
      rw [List.append_nil] at read
      rw [read]
      rfl
  | next line rest free ih =>
    obtain ⟨more, rfl⟩ := Nat.exists_eq_succ_of_ne_zero (Nat.ne_zero_of_lt enough)
    rw [unifyNewlines_terminated free] at enough ⊢
    rw [Text.lines_terminated free] at spelled
    obtain ⟨statement, later, first, others, rfl⟩ := List.forall₂_cons_right_iff.mp spelled
    rw [List.length_append, List.length_cons] at enough
    rw [readStatements_line first (lineEnds_newline _), List.drop_one, List.tail_cons,
      ih others (by omega)]
    rfl

/-- A document whose first line holds a statement has no byte order mark. -/
theorem dropMark_of_spells {document : Text} {statements : List Statement}
    (spelled : List.Forall₂ SpellsStatement statements document.lines) :
    dropMark document = document := by
  unfold dropMark
  split
  · rename_i rest
    have alone : ¬ ('\ufeff' = '\r' ∧ rest.head? = some '\n') := fun behind =>
      absurd behind.1 (by decide)
    obtain ⟨line, others, shape⟩ : ∃ line others, Text.lines ('\ufeff' :: rest) =
        ('\ufeff' :: line) :: others := by
      rw [Text.lines_cons (by decide) alone]
      split
      · exact ⟨_, _, rfl⟩
      · exact ⟨_, _, rfl⟩
    rw [shape] at spelled
    obtain ⟨statement, _, first, _, rfl⟩ := List.forall₂_cons_right_iff.mp spelled
    have unmarked : '\ufeff' ≠ '\ufeff' := first.head_ne rfl (by decide)
    exact absurd rfl unmarked
  · rfl

/-- **A document is read as the statements of its lines.** -/
theorem statements?_lines {document : Text} {statements : List Statement}
    (spelled : List.Forall₂ SpellsStatement statements document.lines) :
    statements? document = some statements := by
  unfold statements?
  rw [dropMark_of_spells spelled]
  exact readStatements_lines spelled (Nat.lt_succ_self _)

/-! ### Tables -/

namespace Members

variable {key : Text} {front : Members}

theorem find?_append (absent : key ∉ front.map Prod.fst) (back : Members) :
    find? key (front ++ back) = find? key back := by
  induction front with
  | nil => rfl
  | cons member later ih =>
    rw [List.map_cons, List.mem_cons, not_or] at absent
    have other : (key == member.1) = false := beq_eq_false_iff_ne.mpr absent.1
    rw [← ih absent.2, find?, find?, List.cons_append, List.lookup_cons, other]

theorem set_append (absent : key ∉ front.map Prod.fst) (node : Node) (back : Members) :
    set key node (front ++ back) = front ++ set key node back := by
  induction front with
  | nil => rfl
  | cons member later ih =>
    rw [List.map_cons, List.mem_cons, not_or] at absent
    rw [List.cons_append, set, if_neg (Ne.symm absent.1), ih absent.2]
    rfl

theorem find?_eq_none (absent : key ∉ front.map Prod.fst) : find? key front = none := by
  have none := find?_append absent []
  rwa [List.append_nil] at none

theorem set_of_absent (absent : key ∉ front.map Prod.fst) (node : Node) :
    set key node front = front ++ [(key, node)] := by
  have last := set_append absent node []
  rwa [List.append_nil] at last

/-- A pair whose key is new comes behind the others. -/
theorem insert?_of_absent (absent : key ∉ front.map Prod.fst) (node : Node) :
    insert? [] key node front = some (front ++ [(key, node)]) := by
  unfold insert?
  rw [modify, find?_eq_none absent, set_of_absent absent]
  rfl

/-- Distinct keys find the nodes that they stand for. -/
theorem find?_of_mem {members : Members} (distinct : (members.map Prod.fst).Nodup) {node : Node}
    (member : (key, node) ∈ members) : find? key members = some node := by
  obtain ⟨front, back, rfl⟩ := List.append_of_mem member
  rw [List.map_append, List.map_cons, List.nodup_append] at distinct
  have absent : key ∉ front.map Prod.fst := fun inFront =>
    distinct.2.2 key inFront key List.mem_cons_self rfl
  rw [find?_append absent, find?, List.lookup_cons, BEq.rfl]

end Members

/-- **Pairs with distinct keys are all kept, in their order.** The draft is seen as the table that
the pairs go to, in the place that it has in the document: what is needed is that the place takes
one pair. -/
theorem foldlM_ofPair {place : Members → Draft}
    (step : ∀ members pair, pair.1 ∉ members.map Prod.fst →
      (place members).add? (.ofPair pair) = some (place (members ++ [pair])))
    {members pairs : Members} (distinct : ((members ++ pairs).map Prod.fst).Nodup) :
    (pairs.map Statement.ofPair).foldlM Draft.add? (place members) =
      some (place (members ++ pairs)) := by
  induction pairs generalizing members with
  | nil =>
    rw [List.append_nil]
    rfl
  | cons pair later ih =>
    have absent : pair.1 ∉ members.map Prod.fst := by
      rw [List.map_append, List.map_cons, List.nodup_append] at distinct
      exact fun inFront => distinct.2.2 pair.1 inFront pair.1 List.mem_cons_self rfl
    rw [← List.singleton_append, ← List.append_assoc] at distinct
    rw [List.map_cons, List.foldlM_cons, step members pair absent]
    simp only [Option.bind_eq_bind, Option.bind_some]
    rw [ih distinct, List.append_assoc, List.singleton_append]

/-- The pairs before the first header are members of the document. -/
theorem add?_top (members : Members) (pair : Text × Node) (absent : pair.1 ∉ members.map Prod.fst) :
    ({ members, header := [] } : Draft).add? (.ofPair pair) =
      some { members := members ++ [pair], header := [] } := by
  show (Members.insert? [] pair.1 pair.2 members).map _ = _
  rw [Members.insert?_of_absent absent]
  rfl

/-- The pairs behind the header of a table are members of that table. -/
theorem add?_table {front : Members} {key : Text} (fresh : key ∉ front.map Prod.fst)
    (members : Members) (pair : Text × Node) (absent : pair.1 ∉ members.map Prod.fst) :
    ({ members := front ++ [(key, .table .header members)], header := [key] } : Draft).add?
        (.ofPair pair) =
      some
        { members := front ++ [(key, .table .header (members ++ [pair]))], header := [key] } := by
  have found : Members.find? key (front ++ [(key, .table .header members)]) =
      some (.table .header members) := by
    rw [Members.find?_append fresh]
    exact List.lookup_cons_self
  show (Members.modify _ _ [key] _ _).map _ = _
  rw [Members.modify, found]
  show ((Option.map _ (Members.insert? [] pair.1 pair.2 members)).map _) = _
  rw [Members.insert?_of_absent absent]
  simp only [Option.map_some, Members.set_append fresh]
  simp [Members.set]

/-- **A document with one table**: the pairs before its header, and the table with those behind. -/
theorem Members.ofStatements?_table {front back : Members} {key : Text}
    (distinct : (front.map Prod.fst).Nodup) (fresh : key ∉ front.map Prod.fst)
    (distinctBack : (back.map Prod.fst).Nodup) :
    Members.ofStatements?
        (front.map Statement.ofPair ++ .tableHeader [] key :: back.map Statement.ofPair) =
      some (front ++ [(key, .table .header back)]) := by
  have top : (front.map Statement.ofPair).foldlM Draft.add? Draft.empty =
      some { members := front, header := [] } :=
    foldlM_ofPair add?_top distinct
  have below : (back.map Statement.ofPair).foldlM Draft.add?
      { members := front ++ [(key, .table .header [])], header := [key] } =
        some { members := front ++ [(key, .table .header back)], header := [key] } :=
    foldlM_ofPair (add?_table fresh) distinctBack
  have opened : ({ members := front, header := [] } : Draft).add? (.tableHeader [] key) =
      some { members := front ++ [(key, .table .header [])], header := [key] } := by
    show (Members.openTable? [] key front).map _ = _
    unfold Members.openTable?
    rw [Members.modify, Members.find?_eq_none fresh, Members.set_of_absent fresh]
    rfl
  unfold Members.ofStatements?
  rw [List.foldlM_append, top]
  simp only [List.foldlM_cons, Option.bind_eq_bind, Option.bind_some, opened]
  rw [below]
  rfl

/-- **The members of a document with one header**, each statement on a line of its own. -/
theorem parse?_lines {document : Text} {front back : Members} {frontLines backLines : List Text}
    {key : Text} (lines : document.lines = frontLines ++ headerLine key :: backLines)
    (bare : IsBare key) (spelled : List.Forall₂ SpellsPair front frontLines)
    (spelledBack : List.Forall₂ SpellsPair back backLines)
    (distinct : (front.map Prod.fst).Nodup) (fresh : key ∉ front.map Prod.fst)
    (distinctBack : (back.map Prod.fst).Nodup) :
    parse? document = some (front ++ [(key, .table .header back)]) := by
  have pairs : ∀ {pairs : Members} {list : List Text}, List.Forall₂ SpellsPair pairs list →
      List.Forall₂ SpellsStatement (pairs.map Statement.ofPair) list := fun spelled =>
    List.forall₂_map_left_iff.mpr (spelled.imp fun _ _ => .pair)
  have statements : List.Forall₂ SpellsStatement
      (front.map Statement.ofPair ++ .tableHeader [] key :: back.map Statement.ofPair)
      document.lines := by
    rw [lines]
    exact List.rel_append (pairs spelled) (.cons (.header bare) (pairs spelledBack))
  unfold parse?
  rw [statements?_lines statements]
  exact Members.ofStatements?_table distinct fresh distinctBack

end ExportManifest.Toml
