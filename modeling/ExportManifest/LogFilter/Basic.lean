/-
**Which events are logged.**

A log filter is a list of directives. Of those that apply to an event the most specific decides:
the one with the longest target, of these one that asks for a field, and of equal ones the last. An
event to which none applies is not logged. In writing, directives stand between commas.
-/

import ExportManifest.LogFilter.Directive

namespace ExportManifest

/-- The directives of a log filter. -/
abbrev LogFilter := List Directive

namespace LogFilter

/-- Lets errors through, whatever their target. -/
def errorsOnly : LogFilter :=
  [.everywhere (some .error)]

/-- The filter where no other is given. -/
def standard (verbose : Bool) : LogFilter :=
  if verbose then
    [.forTarget "dllscan_core".toList (some .debug), .forTarget "dllscan".toList (some .debug)]
  else
    [.everywhere (some .warn)]

/-- A filter from its text. Empty directives do not count, and no directive at all lets only
errors through. -/
def parse? (text : Text) : Option LogFilter :=
  match ((text.pieces ',').filter fun piece => !piece.isEmpty).mapM Directive.parse? with
  | some [] => some errorsOnly
  | directives => directives

/-- The filter to use, given the text of one; a text that is no filter is passed over. -/
def choose (text? : Option Text) (verbose : Bool) : LogFilter :=
  (text?.bind parse?).getD (standard verbose)

/-- The directive that decides on an event. -/
def deciding? (filter : LogFilter) (event : Event) : Option Directive :=
  (filter.filter (·.appliesTo event)).foldl
    (fun best? directive =>
      match best? with
      | some best => if directive.decidesOver best then some directive else some best
      | none => some directive)
    none

/-- Whether an event is logged. -/
def passes (filter : LogFilter) (event : Event) : Bool :=
  (filter.deciding? event).any (·.lets event.level)

end LogFilter

end ExportManifest
