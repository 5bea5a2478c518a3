/-!
The arguments of the command line. An option with a value takes it from its own word or from the next
one; it is given once, like every option but the one that is counted. A value is checked when the
next word has been understood, so that a word which names no option is reported before it.
-/

namespace WidgetPipeline.Cli

/-- What takes a text from the command line. -/
inductive Parameter where
  | input
  | params
  | tsconfig
  | transpiler
  | formatter
deriving DecidableEq, Repr

/-- Whether the text is a path, which cannot be empty. -/
def Parameter.isPath : Parameter → Bool
  | .input | .params | .tsconfig => true
  | .transpiler | .formatter => false

/-- What a word alone switches on. -/
inductive Switch where
  | typescript
  | noFormat
  | json
  | denyErrors
deriving DecidableEq, Repr

inductive Setting where
  | value (parameter : Parameter)
  | switch (switch : Switch)
  | verbose
  | help
  | version
deriving DecidableEq, Repr

def longOptions : List (String × Setting) := [
  ("params", .value .params), ("typescript", .switch .typescript),
  ("tsconfig", .value .tsconfig), ("no-format", .switch .noFormat),
  ("transpiler", .value .transpiler), ("formatter", .value .formatter), ("json", .switch .json),
  ("deny-errors", .switch .denyErrors), ("verbose", .verbose), ("help", .help),
  ("version", .version)]

def shortOptions : List (Char × Setting) :=
  [('p', .value .params), ('v', .verbose), ('h', .help), ('V', .version)]

/-- Why the arguments lead to no run. -/
inductive ArgumentError where
  /-- An option that does not exist, or a second input. -/
  | unknown
  /-- A value that is missing, or an empty path. -/
  | badValue
  | noInput
  | repeated
  /-- A value for an option that takes none. -/
  | needlessValue
  | helpWanted
  | versionWanted
deriving DecidableEq, Repr

structure Arguments where
  /-- The source file, or a dash for the standard input. -/
  input : String
  params : Option String := none
  tsconfig : Option String := none
  transpiler : Option String := none
  formatter : Option String := none
  typescript : Bool := false
  noFormat : Bool := false
  json : Bool := false
  denyErrors : Bool := false
  /-- How often more log lines are asked for. -/
  verbose : Nat := 0
deriving DecidableEq, Repr

/-- A parameter that was named, and its value if it has been given. -/
structure Naming where
  parameter : Parameter
  value : Option String
deriving DecidableEq, Repr

structure Draft where
  values : List (Parameter × String) := []
  switches : List Switch := []
  verbose : Nat := 0
  /-- The parameter that was named last, until its value is checked. -/
  named : Option Naming := none
  hasInput : Bool := false
  optionsOver : Bool := false

namespace Draft

/-- The largest number of times that an option counts. -/
def maxVerbose : Nat := 255

/-- Checks the value that was given last and keeps it. -/
def settle (draft : Draft) : Except ArgumentError Draft :=
  match draft.named with
  | none => .ok draft
  | some { value := none, .. } => .error .badValue
  | some { parameter, value := some value } =>
    if (draft.values.lookup parameter).isSome then .error .repeated
    else if parameter.isPath && value.isEmpty then .error .badValue
    else .ok { draft with values := (parameter, value) :: draft.values, named := none }

/-- Names a parameter. A value in the same word is checked at once. -/
def name (draft : Draft) (parameter : Parameter) (value : Option String) :
    Except ArgumentError Draft := do
  let draft := { ← draft.settle with named := some { parameter, value } }
  if value.isSome then draft.settle else return draft

/-- Takes an option without a value. -/
def choose (draft : Draft) (setting : Setting) : Except ArgumentError Draft := do
  let draft ← draft.settle
  match setting with
  | .value parameter => draft.name parameter none
  | .switch switch =>
    if draft.switches.contains switch then throw .repeated
    return { draft with switches := switch :: draft.switches }
  | .verbose => return { draft with verbose := min (draft.verbose + 1) maxVerbose }
  | .help => throw .helpWanted
  | .version => throw .versionWanted

/-- Reads a word behind two dashes: a name, and perhaps a value behind an equals sign. -/
def readLong (draft : Draft) (word : List Char) : Except ArgumentError Draft :=
  let name := word.takeWhile (· ≠ '=')
  let value := if name.length < word.length then some (word.drop (name.length + 1)) else none
  match longOptions.lookup (String.ofList name), value with
  | none, _ => .error .unknown
  | some (.value parameter), value => draft.name parameter (value.map String.ofList)
  | some _, some _ => .error .needlessValue
  | some setting, none => draft.choose setting

/-- Reads letters behind a dash. What follows the letter of a parameter is its value, behind an
equals sign or not. -/
def readShort (draft : Draft) : List Char → Except ArgumentError Draft
  | [] => .ok draft
  | letter :: rest =>
    match shortOptions.lookup letter with
    | none => .error .unknown
    | some (.value parameter) =>
      let value := if rest.head? = some '=' then rest.tail else rest
      draft.name parameter (if rest.isEmpty then none else some (String.ofList value))
    | some setting => do readShort (← draft.choose setting) rest

/-- Reads a word that is no option: the value of the parameter in front of it, or the input. -/
def readPlain (draft : Draft) (word : String) : Except ArgumentError Draft :=
  match draft.optionsOver, draft.named with
  | false, some { parameter, value := none } =>
    .ok { draft with named := some { parameter, value := some word } }
  | _, _ => do
    if draft.hasInput then throw .unknown
    let draft ← draft.settle
    return { draft with named := some { parameter := .input, value := some word }, hasInput := true }

def readWord (draft : Draft) (word : String) : Except ArgumentError Draft :=
  if draft.optionsOver then draft.readPlain word
  else
    match word.toList with
    | ['-', '-'] => .ok { draft with optionsOver := true }
    | '-' :: '-' :: rest => draft.readLong rest
    | '-' :: letter :: rest => draft.readShort (letter :: rest)
    | _ => draft.readPlain word

def finish (draft : Draft) : Except ArgumentError Arguments := do
  let draft ← draft.settle
  match draft.values.lookup .input with
  | none => throw .noInput
  | some input =>
    return {
      input
      params := draft.values.lookup .params
      tsconfig := draft.values.lookup .tsconfig
      transpiler := draft.values.lookup .transpiler
      formatter := draft.values.lookup .formatter
      typescript := draft.switches.contains .typescript
      noFormat := draft.switches.contains .noFormat
      json := draft.switches.contains .json
      denyErrors := draft.switches.contains .denyErrors
      verbose := draft.verbose }

end Draft

/-- Reads the words of the command line behind the name of the program. -/
def Arguments.ofWords (words : List String) : Except ArgumentError Arguments :=
  (words.foldlM Draft.readWord {}).bind Draft.finish

end WidgetPipeline.Cli
