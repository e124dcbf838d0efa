/-
**TOML documents.**

A document is a sequence of statements, one on a line: the header of a table, the header of one
more table of a list, or a pair of key and value. `statements?` reads them; `Members.ofStatements?`
builds the tables they describe, where a pair belongs to the table of the last header before it.
A document may begin with a byte order mark, and its lines end in `\n` or `\r\n`.
-/

import ExportManifest.Toml.Value

namespace ExportManifest.Toml

/-- A statement of a document. A key is given by the names before its last one, and the last. -/
inductive Statement
  | tableHeader (path : List Text) (key : Text)
  | elementHeader (path : List Text) (key : Text)
  | pair (path : List Text) (key : Text) (node : Node)

/-! ### Reading statements -/

/-- A text with `\n` for every `\r\n`. -/
def unifyNewlines : Text → Text
  | '\r' :: '\n' :: rest => '\n' :: unifyNewlines rest
  | c :: rest => c :: unifyNewlines rest
  | [] => []

/-- A text without a byte order mark at its front. -/
def dropMark : Text → Text
  | '\ufeff' :: rest => rest
  | text => text

/-- The text after the end of a line: gaps, an optional comment, and a newline or the end. -/
def readLineEnd (text : Text) : Option Text :=
  let text := skipGaps text
  let text := if text.head? = some '#' then text.dropWhile isVisible else text
  match text with
  | [] => some []
  | '\n' :: rest => some rest
  | _ => none

/-- A statement at the front of a text, without the end of its line. -/
def readStatement : Text → Option (Statement × Text)
  | '[' :: '[' :: rest => do
    let (path, key, rest) ← readKey rest
    match rest with
    | ']' :: ']' :: rest => return (.elementHeader path key, rest)
    | _ => none
  | '[' :: rest => do
    let (path, key, rest) ← readKey rest
    match rest with
    | ']' :: rest => return (.tableHeader path key, rest)
    | _ => none
  | text => do
    let (path, key, rest) ← readKey text
    match rest with
    | '=' :: rest =>
      let (node, rest) ← readValue (2 * rest.length + 1) (nestingLimit - 1) (skipGaps rest)
      return (.pair path key node, rest)
    | _ => none

/-- The statements of a text. Each takes a step, and so does each line without a statement. -/
def readStatements : Nat → Text → Option (List Statement)
  | 0, _ => none
  | steps + 1, text =>
    match skipGaps text with
    | [] => some []
    | '\n' :: rest => readStatements steps rest
    | '#' :: rest => do
      let rest ← readLineEnd ('#' :: rest)
      readStatements steps rest
    | text => do
      let (statement, rest) ← readStatement text
      let rest ← readLineEnd rest
      let later ← readStatements steps rest
      return statement :: later

/-- The statements of a document. -/
def statements? (document : Text) : Option (List Statement) :=
  let text := unifyNewlines (dropMark document)
  readStatements (text.length + 1) text

/-! ### Building tables -/

/-- The members of a document under construction, and the path of the last header. -/
structure Draft where
  members : Members
  header : List Text

namespace Draft

/-- The draft before the first statement. -/
def empty : Draft :=
  { members := [], header := [] }

/-- The draft with one more statement. -/
def add? (draft : Draft) : Statement → Option Draft
  | .tableHeader path key =>
    (draft.members.openTable? path key).map fun members => { members, header := path ++ [key] }
  | .elementHeader path key =>
    (draft.members.openElement? path key).map fun members => { members, header := path ++ [key] }
  | .pair path key node =>
    (draft.members.modify .implied (fun _ members => members.insert? path key node)
      draft.header .header).map fun members => { draft with members }

end Draft

/-- The tables that a list of statements describes. -/
def Members.ofStatements? (statements : List Statement) : Option Members :=
  (statements.foldlM Draft.add? Draft.empty).map Draft.members

/-- The tables of a document. -/
def parse? (document : Text) : Option Members :=
  (statements? document).bind Members.ofStatements?

end ExportManifest.Toml
