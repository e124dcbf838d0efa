/-
**Directives of a log filter.**

A directive says up to which level events are let through. It may narrow the events it speaks of to
the targets that begin with a text, to what happens inside a span, and to events with a field. In
writing it is one of `level`, `target`, `target=level` and `target[span{field}]=level`, in the last
of which all but the brackets may be missing; `field` is a name or `name=pattern`. Without a level
it lets every level through.

The parts of a directive are found in its text without the blanks around it, and then cut out of
the whole text at the same bytes, so blanks in front count as part of what follows them.
-/

import ExportManifest.Event
import ExportManifest.LogFilter.Pattern
import ExportManifest.Text.Blank
import ExportManifest.Text.Utf8

namespace ExportManifest

/-- A condition on a field: its name, and the pattern that its value has to match, if any. -/
structure FieldCondition where
  name : Text
  pattern? : Option Text
deriving DecidableEq, Repr

/-- A condition from its text. What follows a second `=` does not count. -/
def FieldCondition.parse? (text : Text) : Option FieldCondition :=
  match text.pieces '=' with
  | name :: pattern :: _ =>
    if Pattern.isWellFormed pattern then some { name, pattern? := some pattern } else none
  | _ => if text.isEmpty then none else some { name := text, pattern? := none }

/-- A rule of a log filter: the most detailed level let through, if any, for the events that it
speaks of. -/
structure Directive where
  target? : Option Text
  span? : Option Text
  field? : Option FieldCondition
  level? : Option Level
deriving DecidableEq, Repr

namespace Directive

/-- Lets the given levels through everywhere. -/
def everywhere (level? : Option Level) : Directive :=
  { target? := none, span? := none, field? := none, level? }

/-- Lets the given levels through for targets that begin with a text. -/
def forTarget (target : Text) (level? : Option Level) : Directive :=
  { target? := some target, span? := none, field? := none, level? }

/-! ### Levels -/

/-- The levels by number; zero stands for no level at all. -/
def levels : List (Option Level) :=
  [none, some .error, some .warn, some .info, some .debug, some .trace]

/-- The words for levels, in the order of their numbers. -/
def levelWords : List Text :=
  ["off", "error", "warn", "info", "debug", "trace"].map String.toList

/-- The number that a text stands for; a plus sign may stand before it. -/
def number? : Text → Option Nat
  | '+' :: digits => Decimal.toNat? digits
  | digits => Decimal.toNat? digits

/-- What a number or a word, in any case, says about levels. -/
def levelOfWord? (word : Text) : Option (Option Level) :=
  match (number? word).bind (levels[·]?) with
  | some level? => some level?
  | none => (levelWords.zip levels).lookup (word.map Char.toLower)

/-! ### Reading -/

/-- A character that a target or a level may begin with. -/
def isFirstChar (c : Char) : Bool :=
  c == '-' || c == ':' || c == '_' || Text.isAlphanumeric c

/-- Where a reading stands. A part in progress has the position of its first byte. -/
inductive Place
  /-- Before the first character. -/
  | front
  /-- In a level or target. -/
  | head (start : Nat)
  /-- In the name of a span. -/
  | span (start : Nat)
  /-- In a condition on a field. -/
  | field (start : Nat)
  /-- After a condition on a field. -/
  | afterField
  /-- After the brackets. -/
  | afterSpan
  /-- In a level. -/
  | level (start : Nat)
deriving DecidableEq, Repr

/-- A reading: where it stands, and what it has found. -/
structure Draft where
  place : Place
  found : Directive
deriving DecidableEq, Repr

namespace Draft

/-- The bytes of a text between two positions, if both lie between characters. -/
def cut? (text : Text) (start stop : Nat) : Option Text :=
  (Utf8.drop? start text).bind (Utf8.take? (stop - start))

/-- What the next character means, given the text that parts are cut from and the position of the
character. -/
def step? (text : Text) (draft : Draft) (position : Nat) (c : Char) : Option Draft :=
  let found := draft.found
  match draft.place with
  | .front =>
    if c = '[' then some { place := .span (position + 1), found }
    else if isFirstChar c then some { place := .head position, found }
    else none
  | .head start =>
    if c = '=' then
      (cut? text start position).map fun target =>
        { place := .level (position + 1), found := { found with target? := some target } }
    else if c = '[' then
      (cut? text start position).map fun target =>
        { place := .span (position + 1), found := { found with target? := some target } }
    else some draft
  | .span start =>
    if c = ']' then
      (cut? text start position).map fun name =>
        { place := .afterSpan, found := { found with span? := some name } }
    else if c = '\x7b' then
      (cut? text start position).map fun name =>
        { place := .field (position + 1)
          found := if name.isEmpty then found else { found with span? := some name } }
    else some draft
  | .field start =>
    if c = '\x7d' then
      ((cut? text start position).bind FieldCondition.parse?).map fun condition =>
        { place := .afterField, found := { found with field? := some condition } }
    else some draft
  | .afterField => if c = ']' then some { place := .afterSpan, found } else none
  | .afterSpan => if c = '=' then some { place := .level (position + 1), found } else none
  | .level _ => some draft

/-- Reads characters, the first of them at the given position. -/
def read? (text : Text) : Draft → Nat → Text → Option Draft
  | draft, _, [] => some draft
  | draft, position, c :: rest =>
    (draft.step? text position c).bind fun draft => read? text draft (position + c.utf8Size) rest

/-- What the end of the text means. -/
def finish? (text : Text) (draft : Draft) : Option Directive :=
  let found := draft.found
  match draft.place with
  | .head start =>
    (Utf8.drop? start text).map fun word =>
      match levelOfWord? word with
      | some level? => { found with level? }
      | none => { found with target? := some word }
  | .level start =>
    (Utf8.drop? start text).bind fun word =>
      if word.isEmpty then some found
      else (levelOfWord? word).map fun level? => { found with level? }
  | .afterSpan => some found
  | _ => none

end Draft

/-- A directive from its text. -/
def parse? (text : Text) : Option Directive :=
  let start : Draft := { place := .front, found := everywhere (some .trace) }
  (start.read? text 0 text.trim).bind (Draft.finish? text)

/-! ### Events -/

/-- Whether a directive speaks of events on their own: not of what happens inside a span, nor of
the value of a field. -/
def concernsEvents (directive : Directive) : Bool :=
  directive.span?.isNone && directive.field?.all fun condition => condition.pattern?.isNone

/-- Whether a directive applies to an event. -/
def appliesTo (directive : Directive) (event : Event) : Bool :=
  directive.concernsEvents &&
    (directive.target?.getD []).isPrefixOf event.target &&
    directive.field?.all fun condition =>
      event.fields.any fun field => field.1 = condition.name

/-- The names of the fields that a directive asks for. -/
def fieldNames (directive : Directive) : List Text :=
  directive.field?.toList.map FieldCondition.name

/-- Whether a directive decides where another applies too, and comes earlier: it has the longer
target, or one as long and no lesser field. -/
def decidesOver (directive other : Directive) : Bool :=
  let length := (directive.target?.getD []).length
  let otherLength := (other.target?.getD []).length
  otherLength < length || length = otherLength && !(directive.fieldNames < other.fieldNames)

/-- Whether a directive lets a level through. -/
def lets (directive : Directive) (level : Level) : Bool :=
  directive.level?.any fun most => level.rank ≤ most.rank

end Directive

end ExportManifest
