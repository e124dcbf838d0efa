/-
**What a TOML document holds.**

A document is a table of named nodes. Besides the plain values a node can be a table, and a table
remembers how it came to be, because that decides whether it may still grow: a table with a header
of its own, one implied by the header of a table below it, or one implied by a dotted key. An
inline table is complete as it stands. A list of tables grows by one table with each of its headers.
-/

import ExportManifest.Text.Lines

namespace ExportManifest.Toml

/-- How a table came to be. -/
inductive Origin
  /-- It has a header of its own, or is the document. -/
  | header
  /-- A header names a table below it. -/
  | implied
  /-- A dotted key leads through it. -/
  | dotted
deriving DecidableEq, Repr

/-- A value or table of a document. The values of fractional numbers and of dates and times are
not kept. -/
inductive Node
  | string (content : Text)
  | integer (value : Int)
  | float
  | boolean (value : Bool)
  | moment
  | array (items : List Node)
  | inline (members : List (Text × Node))
  | table (origin : Origin) (members : List (Text × Node))
  | tables (elements : List (List (Text × Node)))

/-- The named nodes of a table. -/
abbrev Members := List (Text × Node)

namespace Members

/-- The node of the given name. -/
def find? (key : Text) (members : Members) : Option Node :=
  members.lookup key

/-- The members with the node of the given name set; a new name comes last. -/
def set (key : Text) (node : Node) : Members → Members
  | [] => [(key, node)]
  | member :: later =>
    if member.1 = key then (key, node) :: later else member :: set key node later

/-- Changes the table that a path leads to from a table of the given origin.

A name on the way that is not there yet becomes a table of origin `fresh`. The path goes through
tables, and through lists of tables by their last one, but through no value. A dotted path does not
enter a table that has a header of its own. -/
def modify (fresh : Origin) (change : Origin → Members → Option Members) :
    List Text → Origin → Members → Option Members
  | [], origin, members => change origin members
  | key :: path, _, members =>
    match members.find? key with
    | none =>
      (modify fresh change path fresh []).map fun below => members.set key (.table fresh below)
    | some (.table origin below) =>
      if fresh = .dotted ∧ origin = .header then none
      else
        (modify fresh change path origin below).map fun below =>
          members.set key (.table origin below)
    | some (.tables elements) =>
      match elements.getLast? with
      | none => none
      | some last =>
        (modify fresh change path .header last).map fun last =>
          members.set key (.tables (elements.dropLast ++ [last]))
    | some _ => none

/-- Adds a node under a dotted key. The table that the part before the last name leads to must
come from dotted keys alone, and the last name must be new in it. -/
def insert? (path : List Text) (key : Text) (node : Node) (members : Members) : Option Members :=
  modify .dotted
    (fun origin members =>
      if (origin == .dotted) == path.isEmpty then none
      else if (members.find? key).isSome then none
      else some (members.set key node))
    path .header members

/-- Opens the table of a header. Its name must be new, or implied by an earlier header. -/
def openTable? (path : List Text) (key : Text) (members : Members) : Option Members :=
  modify .implied
    (fun _ members =>
      match members.find? key with
      | none => some (members.set key (.table .header []))
      | some (.table .implied below) => some (members.set key (.table .header below))
      | some _ => none)
    path .header members

/-- Opens one more table of a list of tables. Its name must be new, or that of such a list. -/
def openElement? (path : List Text) (key : Text) (members : Members) : Option Members :=
  modify .implied
    (fun _ members =>
      match members.find? key with
      | none => some (members.set key (.tables [[]]))
      | some (.tables elements) => some (members.set key (.tables (elements ++ [[]])))
      | some _ => none)
    path .header members

end Members

end ExportManifest.Toml
