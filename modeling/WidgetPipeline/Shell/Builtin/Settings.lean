import WidgetPipeline.Shell.Builtin.Options
import WidgetPipeline.Shell.Expansion
import WidgetPipeline.Shell.Lookup

/-!
The commands that change what a shell knows: its variables, options, parameters and aliases.
-/

namespace WidgetPipeline.Shell.Builtin

def listVariables (lead : String) (wanted : Variable → Bool) : Action Unit := do
  let shell ← shell
  for (name, variable_) in shell.bindings.toList do
    if wanted variable_ then
      let value :=
        match variable_.value with
        | some value => s!"={singleQuoted value}"
        | none => ""
      print s!"{lead}{name}{value}\n"

/-- Marks variables, which may get values too, or lists those that are marked. -/
def mark (name : String) (isMarked : Variable → Bool) (change : Variable → Variable)
    (arguments : List String) : Action Nat := do
  let (given, arguments) ← options { bare := ['p'] } arguments
  if given.isEmpty && !arguments.isEmpty then
    for argument in arguments do
      let (variable_, value) := splitAssignment argument
      match value with
      | some value =>
        setVariable variable_ value
        markVariable variable_ change
      | none => markVariable variable_ change
  else listVariables (name ++ " ") isMarked
  return 0

def exportVariables (arguments : List String) : Action Nat :=
  mark "export" (·.exported) (fun variable_ => { variable_ with exported := true }) arguments

def protectVariables (arguments : List String) : Action Nat :=
  mark "readonly" (·.readOnly) (fun variable_ => { variable_ with readOnly := true }) arguments

def unset (arguments : List String) : Action Nat := do
  let (given, arguments) ← options { bare := ['v', 'f'] } arguments
  for name in arguments do
    if (given.getLast?.map (·.1)) = some 'f' then
      changeShell fun shell => { shell with functions := shell.functions.erase name }
    else unsetVariable name
  return 0

def localVariables (arguments : List String) : Action Nat := do
  if (← shell).locals.isEmpty then fail "not in a function"
  for argument in arguments do
    makeLocal argument false
  return 0

def setOption (option : Char) (on : Bool) : Action Unit :=
  changeShell fun shell =>
    let others := shell.options.filter (· ≠ option)
    { shell with options := if on then option :: others else others }

/-- Lists the options. Before the first command, none is decided, and all count as set. -/
def listOptions (readable : Bool) : Action Unit := do
  let shell ← shell
  if readable then print "Current option settings\n"
  for (name, option) in optionTable do
    let on := shell.has option || shell.line = 0
    if readable then
      let blanks := String.ofList (List.replicate (16 - name.length) ' ')
      print (name ++ blanks ++ (if on then "on\n" else "off\n"))
    else print ((if on then "set -o " else "set +o ") ++ name ++ "\n")

def setNamedOption (name : String) (on : Bool) : Action Unit := do
  match optionTable.lookup name with
  | some option => setOption option on
  | none => fail (s!"Illegal option -o {name}")

/-- Sets or clears options that letters name. Gives the arguments behind them. The letters of the two
editors exclude one another, though their names do not. -/
def setLetters (on : Bool) (arguments : List String) : List Char → Action (List String)
  | [] => return arguments
  | 'o' :: cs =>
    match arguments with
    | name :: rest => do
      setNamedOption name on
      setLetters on rest cs
    | [] => do
      listOptions on
      setLetters on [] cs
  | c :: cs => do
    if c.isDigit || !(optionTable.any (·.2 = c)) then
      fail s!"Illegal option -{c}"
    setOption c on
    if on && c = 'V' then setOption 'E' false
    if on && c = 'E' then setOption 'V' false
    setLetters on arguments cs

/-- Clears the option for jobs under control: there is no terminal for that. Only a shell that is no
copy of another one looks for it. -/
def dropMonitor (wanted : Bool) : Action Unit := do
  let shell ← shell
  if wanted && shell.self = shell.process then
    warn "can't access tty; job control turned off"
    setOption 'm' false

/-- Sets and clears the options in front of arguments. Gives the new parameters, if there are some.
`fuel` bounds the number of arguments. -/
def setOptions : Nat → List String → Action (Option (List String))
  | 0, _ => return none
  | fuel + 1, arguments => do
    match arguments with
    | [] => return none
    | argument :: rest =>
      match argument.toList with
      | ['-'] =>
        setOption 'x' false
        setOption 'v' false
        return if rest.isEmpty then none else some rest
      | ['-', '-'] => return some rest
      | '-' :: cs => setOptions fuel (← setLetters true rest cs)
      | '+' :: cs => setOptions fuel (← setLetters false rest cs)
      | _ => return some arguments

def setParameters (parameters : List String) : Action Unit :=
  changeShell fun shell => { shell with parameters, optionIndex := 1, optionPlace := none }

/-- Sets options and parameters, or lists the variables. -/
def changeSettings (arguments : List String) : Action Nat := do
  if arguments.isEmpty then listVariables "" fun variable_ => variable_.value.isSome
  else
    let parameters ← setOptions (arguments.length + 1) arguments
    dropMonitor ((← shell).has 'm')
    if let some parameters := parameters then setParameters parameters
  return 0

def shift (arguments : List String) : Action Nat := do
  let n ←
    match arguments with
    | argument :: _ => needNumber argument
    | [] => pure 1
  let shell ← shell
  if shell.parameters.length < n then fail "can't shift that many"
  setParameters (shell.parameters.drop n)
  return 0

/-- Gives an alias a text. An alias that is there keeps its place. -/
def setAlias (name value : String) : Action Unit :=
  changeShell fun shell =>
    { shell with
      aliases :=
        if (shell.aliases.lookup name).isSome then
          shell.aliases.map fun entry => if entry.1 = name then (name, value) else entry
        else shell.aliases ++ [(name, value)] }

def changeAliases (arguments : List String) : Action Nat := do
  let shell ← shell
  let line (name value : String) : String := s!"{name}={singleQuoted value}\n"
  if arguments.isEmpty then
    for (name, value) in shell.aliases.mergeSort fun a b => aliasPlace a.1 ≤ aliasPlace b.1 do
      print (line name value)
    return 0
  let mut status := 0
  for argument in arguments do
    -- an equals sign at the start belongs to the name
    let first := argument.toList.take 1
    let (name, value) := splitAssignment (String.ofList (argument.toList.drop 1))
    let name := String.ofList first ++ name
    match value with
    | some value =>
      setAlias name value
    | none =>
      match (← Shell.shell).aliases.lookup name with
      | some value => print (line name value)
      | none =>
        printError s!"alias: {name} not found\n"
        status := 1
  return status

def dropAliases (arguments : List String) : Action Nat := do
  if (arguments.headD "").startsWith "-a" then
    changeShell fun shell => { shell with aliases := [] }
    return 0
  let mut status := 0
  for name in ← operands arguments do
    if ((← shell).aliases.lookup name).isSome then
      changeShell fun shell => { shell with aliases := shell.aliases.filter (·.1 ≠ name) }
    else
      printError s!"unalias: {name} not found\n"
      status := 1
  return status

structure FoundOption where
  letter : Char
  /-- What the option's value becomes; none is forgotten. -/
  value : Option String
  message : String := ""
  done : Bool := false
  index : Nat
  place : Option Nat := none

/-- Whether letters know an option, and whether it takes a value. A colon behind a letter is no letter. -/
def knownOption? : List Char → Char → Option Bool
  | d :: ':' :: rest, c => if c = d then some true else knownOption? rest c
  | d :: rest, c => if c = d then some false else knownOption? rest c
  | [], _ => none

def nextOption (letters : String) (arguments : List String) (index : Nat) (place : Option Nat) :
    FoundOption :=
  let silent := letters.startsWith ":"
  let finish (index : Nat) : FoundOption :=
    { letter := '?', value := none, done := true, index }
  let take (index : Nat) (argument : List Char) (place : Nat) : FoundOption :=
    match argument.drop place with
    | [] => finish index
    | c :: rest =>
      let next := if rest.isEmpty then none else some (place + 1)
      match knownOption? letters.toList c with
      | none =>
        if silent then { letter := '?', value := some (String.singleton c), index, place := next }
        else
          { letter := '?', value := none, message := s!"Illegal option -{c}\n", index, place := next }
      | some false => { letter := c, value := some "", index, place := next }
      | some true =>
        if !rest.isEmpty then { letter := c, value := some (String.ofList rest), index }
        else
          match arguments[index - 1]? with
          | some value => { letter := c, value := some value, index := index + 1 }
          | none =>
            if silent then { letter := ':', value := some (String.singleton c), index }
            else { letter := '?', value := none, message := s!"No arg for -{c} option\n", index }
  let current := if index < 2 then none else arguments[index - 2]?
  match current, place with
  | some argument, some place =>
    if place < argument.length then take index argument.toList place else start take finish
  | _, _ => start take finish
where
  start (take : Nat → List Char → Nat → FoundOption) (finish : Nat → FoundOption) : FoundOption :=
    match arguments[index - 1]? with
    | none => finish index
    | some argument =>
      match argument.toList with
      | ['-', '-'] => finish (index + 1)
      | '-' :: c :: cs => take (index + 1) ('-' :: c :: cs) 1
      | _ => finish index

/-- Finds the next option letter among the parameters or arguments. The search starts over where a
variable cannot be set. -/
def getopts (arguments : List String) : Action Nat := do
  match arguments with
  | letters :: name :: rest =>
    let shell ← shell
    let words := if rest.isEmpty then shell.parameters else rest
    let fresh := words.length + 1 < shell.optionIndex
    let index := if fresh then 1 else shell.optionIndex
    let place := if fresh then none else shell.optionPlace
    let found := nextOption letters words index place
    let goOn (index : Nat) (place : Option Nat) : Action Unit :=
      changeShell fun shell => { shell with optionIndex := index, optionPlace := place }
    goOn 1 none
    printError found.message
    if !found.done then
      match found.value with
      | some value => setVariable "OPTARG" value
      | none => unsetVariable "OPTARG"
    setVariable "OPTIND" (toString found.index)
    goOn 1 none
    setVariable name (String.singleton found.letter)
    goOn found.index found.place
    return if found.done then 1 else 0
  | _ => fail "Usage: getopts optstring var [arg...]"

end WidgetPipeline.Shell.Builtin
