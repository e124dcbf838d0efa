/-
**The arguments of the command line.**

Three values are wanted in order: the source, the output and the schema version. Options may stand
anywhere among them, each at most once. An argument that begins with `-` is an option, with one
exception: where the schema version is the next value wanted, an argument that is no known option
is that value, so that a negative number need not be set apart. After `--` all arguments are
values.

The arguments are taken from left to right, and the first that asks for help, asks for the version
of the program or cannot be taken decides (`Invocation`).
-/

import ExportManifest.Text.Lines

namespace ExportManifest

/-- The arguments of a run. -/
structure Arguments where
  source : Text
  output : Text
  schemaVersion : Text
  verbose : Bool
  exportAttribute? : Option Text
  settingsPath? : Option Text
deriving DecidableEq, Repr

/-- What the arguments ask for. -/
inductive Invocation
  | run (arguments : Arguments)
  | help
  | version
  /-- They cannot be understood. -/
  | misuse
deriving DecidableEq, Repr

namespace Arguments

/-- An option that takes a value. -/
inductive ValueOption
  | exportAttribute
  | settingsPath
deriving DecidableEq, Repr

/-- An option without a value. -/
inductive Flag
  | verbose
  | help
  | version
deriving DecidableEq, Repr

/-- The arguments taken so far, and the option that waits for its value. -/
structure Draft where
  values : List Text
  verbose : Bool
  exportAttribute? : Option Text
  settingsPath? : Option Text
  waiting? : Option ValueOption
deriving DecidableEq, Repr

/-- The flag of a letter. -/
def flagOfLetter? : Char → Option Flag
  | 'v' => some .verbose
  | 'h' => some .help
  | 'V' => some .version
  | _ => none

/-- The flag of a word. -/
def flagOfWord? (word : Text) : Option Flag :=
  if word = "verbose".toList then some .verbose
  else if word = "help".toList then some .help
  else if word = "version".toList then some .version
  else none

/-- The option with a value of a word. -/
def valueOptionOfWord? (word : Text) : Option ValueOption :=
  if word = "attribute".toList then some .exportAttribute
  else if word = "config".toList then some .settingsPath
  else none

namespace Draft

/-- The draft before the first argument. -/
def empty : Draft :=
  { values := [], verbose := false, exportAttribute? := none, settingsPath? := none,
    waiting? := none }

/-- Whether the schema version is the next value wanted. -/
def wantsVersion (draft : Draft) : Bool :=
  draft.values.length == 2

/-- Takes one of the three values. The two paths must not be empty. -/
def takeValue (draft : Draft) (value : Text) : Except Invocation Draft :=
  if 3 ≤ draft.values.length then .error .misuse
  else if draft.values.length < 2 && value.isEmpty then .error .misuse
  else .ok { draft with values := draft.values ++ [value] }

/-- Takes the value of an option, which must not have one yet. -/
def takeOption (draft : Draft) (option : ValueOption) (value : Text) : Except Invocation Draft :=
  match option with
  | .exportAttribute =>
    if draft.exportAttribute?.isSome then .error .misuse
    else .ok { draft with exportAttribute? := some value, waiting? := none }
  | .settingsPath =>
    if draft.settingsPath?.isSome || value.isEmpty then .error .misuse
    else .ok { draft with settingsPath? := some value, waiting? := none }

/-- Takes a plain argument: the value that an option waits for, or one of the three. -/
def takePlain (draft : Draft) (value : Text) : Except Invocation Draft :=
  match draft.waiting? with
  | some option => draft.takeOption option value
  | none => draft.takeValue value

/-- Takes a flag. -/
def takeFlag (draft : Draft) (flag : Flag) : Except Invocation Draft :=
  if draft.waiting?.isSome then .error .misuse
  else
    match flag with
    | .verbose => if draft.verbose then .error .misuse else .ok { draft with verbose := true }
    | .help => .error .help
    | .version => .error .version

/-- Takes the letters after a single dash, one after the other. -/
def takeLetters (draft : Draft) : Text → Except Invocation Draft
  | [] => .ok draft
  | letter :: later =>
    match flagOfLetter? letter with
    | none => .error .misuse
    | some flag =>
      match draft.takeFlag flag with
      | .error invocation => .error invocation
      | .ok draft => draft.takeLetters later

/-- Takes a word after two dashes, with the value attached to it by `=`, if any. -/
def takeWord (draft : Draft) (argument word : Text) (attached? : Option Text) :
    Except Invocation Draft :=
  match flagOfWord? word, valueOptionOfWord? word with
  | some flag, _ => if attached?.isSome then .error .misuse else draft.takeFlag flag
  | none, some option =>
    if draft.waiting?.isSome then .error .misuse
    else
      match attached? with
      | some value => draft.takeOption option value
      | none => .ok { draft with waiting? := some option }
  | none, none => if draft.wantsVersion then draft.takePlain argument else .error .misuse

/-- The value attached to a word by `=`. -/
def attached? (text : Text) : Option Text :=
  match text.dropWhile (· != '=') with
  | _ :: value => some value
  | [] => none

/-- Takes an argument before any `--`. -/
def take (draft : Draft) (argument : Text) : Except Invocation Draft :=
  match argument with
  | '-' :: '-' :: text => draft.takeWord argument (text.takeWhile (· != '=')) (attached? text)
  | '-' :: letter :: letters =>
    if draft.wantsVersion && (letter :: letters).any fun c => (flagOfLetter? c).isNone then
      draft.takePlain argument
    else draft.takeLetters (letter :: letters)
  | _ => draft.takePlain argument

/-- Takes all arguments; those after `--` are values. -/
def takeAll (draft : Draft) : List Text → Except Invocation Draft
  | [] => .ok draft
  | argument :: later =>
    if argument = "--".toList then
      if draft.waiting?.isSome then .error .misuse else later.foldlM takeValue draft
    else
      match draft.take argument with
      | .error invocation => .error invocation
      | .ok draft => draft.takeAll later

/-- What a complete draft asks for. -/
def finish (draft : Draft) : Invocation :=
  match draft.waiting?, draft.values with
  | none, [source, output, schemaVersion] =>
    .run
      { source, output, schemaVersion, verbose := draft.verbose,
        exportAttribute? := draft.exportAttribute?, settingsPath? := draft.settingsPath? }
  | _, _ => .misuse

end Draft

end Arguments

/-- What a list of arguments asks for. -/
def Invocation.ofArguments (arguments : List Text) : Invocation :=
  match Arguments.Draft.empty.takeAll arguments with
  | .error invocation => invocation
  | .ok draft => draft.finish

end ExportManifest
