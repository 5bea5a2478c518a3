import WidgetPipeline.Shell.Evaluation

/-!
Simple commands, and shells as programs. A simple command is expanded, then its descriptors and
variables are set, and then what its name stands for is run: a function, a command of the shell
itself, or a program. A shell is a program too, and runs in the same world when another shell starts
it.

A shell that a converter starts reads its script from an argument, a file or its input, and nobody
talks to it. What only makes sense otherwise is left out: prompts and settings read at a login, the
commands that move jobs between a terminal and the background, and those about the clock and the
limits of the machine.
-/

namespace WidgetPipeline.Shell

open External (ExitStatus Outcome)
open Toolbox (Call Sink)

/-- The words of a simple command, once it is known what it is. -/
structure Prepared where
  fields : List String
  /-- The words in front that only say how to find the command. -/
  lead : List String := []
  rest : List Word
  found : Found := .own
  /-- The first command in it is special, and its errors end the shell. -/
  special : Bool := false
  /-- Its variables are its own. -/
  ownVariables : Bool := false
  /-- Assignments among its arguments are not separated into fields. -/
  assigns : Bool := false
  /-- Functions do not count. -/
  plainOnly : Bool := false
  standardPath : Bool := false

def assigningCommands : List String := ["alias", "export", "local", "readonly"]

/-- What the options behind a command that is to be found without functions say: whether the standard
directories count, and whether there is a command left. The options themselves are `lead`. -/
inductive PlainArguments where
  | run (standardPath : Bool) (lead fields : List String) (rest : List Word)
  | describe

def PlainArguments.behind (word : String) : PlainArguments → PlainArguments
  | .run standardPath lead fields rest => .run standardPath (word :: lead) fields rest
  | .describe => .describe

structure ShellCall where
  name : String
  arguments : List String
  environment : List (String × String)

namespace Engine

variable (engine : Engine)

def nextFields : List Word → Action (List String × List Word)
  | [] => return ([], [])
  | word :: words => do
    match ← expandFields engine.capture word with
    | [] => nextFields words
    | fields => return (fields, words)

/-- Makes sure that there is a field, if there can be one. -/
def atLeastOne (fields : List String) (rest : List Word) : Action (List String × List Word) :=
  if fields.isEmpty then engine.nextFields rest else return (fields, rest)

/-- Reads the options behind the name of the command that finds commands without functions. `fuel`
bounds their number. -/
def plainArguments : Nat → Bool → List String → List Word → Action PlainArguments
  | 0, _, _, _ => return .describe
  | fuel + 1, standardPath, fields, rest => do
    match ← engine.atLeastOne fields rest with
    | ([], _) => return .describe
    | (argument :: fields, rest) =>
      match argument.toList with
      | ['-', '-'] =>
        match ← engine.atLeastOne fields rest with
        | ([], _) => return .describe
        | (fields, rest) => return .run standardPath [argument] fields rest
      | '-' :: c :: cs =>
        if (c :: cs).all (· = 'p') then
          return (← plainArguments fuel true fields rest).behind argument
        else return .describe
      | _ => return .run standardPath [] (argument :: fields) rest

/-- Finds out what a command is from its first field on. `fuel` bounds the commands in front of one
another. -/
def prepare : Nat → Prepared → Bool → Action Prepared
  | 0, prepared, _ => return prepared
  | fuel + 1, prepared, first => do
    let shell ← shell
    let name := prepared.fields.headD ""
    let path := (shell.value? "PATH").getD ""
    let found := findCommand shell (← files) (!prepared.plainOnly) path name
    match found with
    | .own =>
      let special := if first then specialCommands.contains name else prepared.special
      let prepared :=
        { prepared with
          found
          special
          ownVariables := !(first && special)
          assigns := assigningCommands.contains name }
      if name ≠ "command" then return prepared
      -- the words are read ahead, whatever they turn out to be
      match ← engine.plainArguments (prepared.fields.length + prepared.rest.length + 2)
          prepared.standardPath prepared.fields.tail prepared.rest with
      | .describe => return prepared
      | .run standardPath lead fields rest =>
        let lead := prepared.lead ++ name :: lead
        prepare fuel { prepared with fields, lead, rest, standardPath, plainOnly := true } false
    | found =>
      return { prepared with found, ownVariables := true, assigns := false }

def expandCommand (words : List Word) : Action Prepared := do
  let (fields, rest) ← engine.nextFields words
  if fields.isEmpty then return { fields, rest }
  let prepared ← engine.prepare (words.length + 2) { fields, rest } true
  let more ← prepared.rest.mapM fun word => do
    if prepared.assigns && isAssignment word then
      return [← expandText engine.capture { assignment := true } word]
    else expandFields engine.capture word
  return { prepared with fields := prepared.fields ++ more.flatten, rest := [] }

/-- The files as a program sees them that is started: the places of its own descriptors lead to where
these lead. -/
def filesForPrograms : Action FileTree := do
  let shell ← shell
  let world ← world
  let place (n : Nat) : List String := ["proc", "self", "fd", toString n]
  let closed := ((List.range 3).filter fun n => (shell.channel? n).isNone).map fun n => (n, none)
  let opened := shell.descriptors.filterMap fun (n, channel) =>
    match (world.channel channel).endpoint with
    | .pipe pipe =>
      if n < 3 then none else some (n, some (FileNode.file (world.pipe pipe).bytes))
    | .file names _ _ => some (n, some (.link (FileTree.pathOf names)))
    | .device device => some (n, some (.device device))
    | .directory => some (n, some .directory)
  return (closed ++ opened).foldl (fun files (n, node) =>
    match node with
    | some node => files.put (place n) node
    | none => files.remove (place n)) (← Shell.files)

def sinkOf (channel : Option Nat) : Action Sink := do
  match channel with
  | none => return .closed
  | some channel =>
    let channel := (← world).channel channel
    if !channel.writable then return .readOnly
    match channel.endpoint with
    | .device .full => return .full
    | .directory => return .readOnly
    | _ => return .taken

def runTool (run : Call → Outcome) (name : String) (arguments : List String) : Action ExitStatus := do
  let shell ← shell
  let world ← world
  let input := shell.channel? 0
  let inputSize :=
    match input.map fun channel => (world.channel channel).endpoint with
    | some (.file names _ _) => some (world.fileBytes names).length
    | _ => none
  let output ← sinkOf (shell.channel? 1)
  let fileOf (channel : Option Nat) : Option (List String) :=
    match channel.map fun channel => (world.channel channel).endpoint with
    | some (.file names _ _) => some names
    | _ => none
  let call : Call :=
    { name
      arguments
      environment := shell.environment
      files := ← filesForPrograms
      input := (input.map world.available).getD (.error World.badDescriptor)
      inputSize
      inputOpen := input.isSome
      inputFile := fileOf input
      outputFile := fileOf (shell.channel? 1)
      output }
  let outcome := run call
  if let some channel := input then
    if call.input.toOption.isSome then changeWorld (·.leave channel outcome.unread)
  let pipeOf (channel : Option Nat) : Option Nat :=
    match channel.map fun channel => (world.channel channel).endpoint with
    | some (.pipe index) => some index
    | _ => none
  let (first, second) := (shell.channel? 1, shell.channel? 2)
  let together := first = second || ((pipeOf first).isSome && pipeOf first = pipeOf second)
  let whole ←
    if together then writeTo 2 outcome.joined
    else
      let first ← writeTo 2 outcome.errors
      let second ← writeTo 1 outcome.output
      pure (first && second)
  if whole then
    if let some channel := input then
      if outcome.unread.isEmpty then changeWorld (·.ask channel)
    return outcome.status
  else return .signal pipeSignal
where
  /-- Writes bytes to a descriptor. Gives whether its pipe is whole, if it leads to one. -/
  writeTo (descriptor : Nat) (bytes : List UInt8) : Action Bool := do
    let some channel := (← Shell.shell).channel? descriptor | return true
    match (← Shell.world).write channel bytes with
    | .ok after =>
      let broken := after.isBroken channel
      changeWorld fun _ => after
      return !broken || bytes.isEmpty
    | .error _ => return true

def initialVariables (environment : List (String × String)) (parent : Nat) (directory : String) :
    OrderedMap String Variable :=
  let usual : List (String × Variable) :=
    [("PATH", { value := some standardPath }), ("PS1", { value := some "# " }),
      ("PS2", { value := some "> " }), ("PS4", { value := some "+ " })]
  let given := (environment.filter fun entry => isName entry.1).map fun (name, value) =>
    (name, ({ value := some value, exported := true } : Variable))
  let fixed : List (String × Variable) :=
    [("IFS", { value := some " \t\n" }), ("OPTIND", { value := some "1" }),
      ("PPID", { value := some (toString parent) }),
      ("PWD", { value := some directory, exported := true })]
  .ofList (usual ++ given ++ fixed)

/-- Reads the letters in front of the arguments of a shell. Gives whether commands follow as a text, and
the arguments behind the letters. `fuel` bounds their number. -/
def callLetters : Nat → Bool → List String → Action (Bool × List String)
  | 0, command, arguments => return (command, arguments)
  | fuel + 1, command, arguments => do
    match arguments with
    | [] => return (command, [])
    | argument :: rest =>
      match argument.toList with
      | ['-'] | ['-', '-'] => return (command, rest)
      | sign :: cs =>
        if sign ≠ '-' && sign ≠ '+' then return (command, arguments)
        -- a shell that is the first of a session is like any other here
        let kept := cs.filter fun c => c ≠ 'c' && c ≠ 'l'
        let rest ← Builtin.setLetters (sign = '-') rest kept
        callLetters fuel (command || cs.contains 'c') rest
      | [] => return (command, arguments)

/-- A text with its expansions, as if it stood in a document. A text in which something is wrong stands
for itself. -/
def expanded (text : String) : Action String := do
  let result ← attempt do
    let (word, _) ← readFrom (.ofText text) Reader.expandableText fun _ => return
    expandText engine.capture { quoted := true } word
  match result with
  | .ok text => return text
  | .error .failed => return text
  | .error stop => throw stop

def expandedValue (name : String) : Action String := do
  engine.expanded (((← shell).value? name).getD "")

/-- Runs the commands of the script for which a shell was called, up to its end. -/
def runScript (script : Script) : Action Unit := discard (engine.runLines false maxLines script 0)

def runInput : Action Unit := engine.runScript (.input {})

def runCall (arguments : List String) : Action Unit := do
  let (command, rest) ←
    andFinally (callLetters (arguments.length + 1) false arguments) flush
  let start (action : Action Unit) : Action Unit := do
    Builtin.dropMonitor ((← shell).has 'm' || (← shell).has 'i')
    changeShell fun shell => { shell with line := 1 }
    action
  if command then
    match rest with
    | [] => fail "-c requires an argument"
    | text :: rest =>
      if let name :: parameters := rest then
        changeShell fun shell => { shell with name, parameters }
      start do
        discard (engine.runText false text)
        if (← shell).has 's' then engine.runInput
  else
    match rest with
    | [] =>
      Builtin.setOption 's' true
      start engine.runInput
    | name :: parameters =>
      if (← shell).has 's' then
        changeShell fun shell => { shell with parameters := rest }
        start engine.runInput
      else
        let channel ← openFile .read name
        changeShell fun shell => { shell with name, parameters }
        start (engine.runScript (.channel channel {}))

def runShell (call : ShellCall) (shell : Interpreter) : Action ExitStatus := do
  let files ← files
  let physical := Builtin.shownPath shell.directory
  let isHere (path : String) : Bool :=
    path.startsWith "/" &&
      (files.spot path).toOption.any fun spot => spot.names = shell.directory
  let given := (call.environment.lookup "PWD").filter isHere
  let shownDirectory := given.getD physical
  changeShell fun _ =>
    { name := call.name
      process := shell.self
      self := shell.self
      parent := shell.parent
      bindings := initialVariables call.environment shell.parent shownDirectory
      shownDirectory
      physicalDirectory := if given.isNone then some physical else none
      descriptors := shell.descriptors
      umask := shell.umask
      directory := shell.directory
      ancestors := shell.ancestors
      ignored := shell.ignored ++ (shell.traps.filter (·.2.isEmpty)).map (·.1) }
  match ← engine.ending (engine.runCall call.arguments) with
  | .ok status => return .code status
  | .error (.killed process signal) =>
    if process = shell.self then return .signal signal else throw (.killed process signal)
  | .error .endless => throw .endless
  | .error _ => return .code 2

/-- Starts the program at a path in the process that the shell is. Gives how it ended, or why it could
not be started, in words. -/
def startProgram (path : String) (fields : List String) : Action (Except (Nat × String) ExitStatus) := do
  engine.runPending
  let shell ← shell
  let name := fields.headD ""
  match (← files).find path with
  | .ok (.program program) =>
    let texts := fields ++ shell.environment.flatMap fun entry => [entry.1, entry.2]
    if Toolbox.areTooMuch (texts.map (·.length)) then return .error (126, "Argument list too long")
    match engine.programs.lookup program with
    | some (.tool run) => return .ok (← runTool run name fields.tail)
    | some .shell =>
      let call : ShellCall :=
        { name, arguments := fields.tail, environment := shell.environment }
      let status ← engine.runShell call shell
      changeShell fun _ => shell
      return .ok status
    | none => return .error (126, "Permission denied")
  | .ok _ => return .error (126, "Permission denied")
  | .error .notFound | .error .notDirectory => return .error (127, "not found")
  | .error .tooLong => return .error (127, FileError.tooLong.reason)
  | .error error => return .error (126, runReason error)

def runProgram (path : String) (fields : List String) (mode : Mode) : Action Nat := do
  let replaces := mode.last && (← shell).traps.all (·.2.isEmpty)
  if !replaces then makePlace
  let shell ← shell
  let name := fields.headD ""
  let process := (← world).nextProcess
  if !replaces then
    changeWorld fun world => { world with nextProcess := process + 1 }
    changeShell fun _ =>
      { shell with
        self := process
        parent := shell.self
        ancestors := (shell.self, shell.traps) :: shell.ancestors }
  let result ← engine.startProgram path fields
  changeShell fun after =>
    { after with self := shell.self, parent := shell.parent, ancestors := shell.ancestors }
  if !replaces then noticeEnd
  match result with
  | .ok (.code status) => return status
  | .ok (.signal signal) =>
    if replaces then throw (.killed shell.self signal) else statusOf (.signal signal)
  | .error (status, reason) =>
    warn s!"{name}: {reason}"
    return status

def programPath (prepared : Prepared) (name : String) : Action Found := do
  let shell ← shell
  let path := if prepared.standardPath then standardPath else (shell.value? "PATH").getD ""
  return findCommand shell (← files) (!prepared.plainOnly) path name

/-- Lets a program take the place of the shell. -/
def replaceShell (fields : List String) : Action Nat := do
  let name := fields.headD ""
  let path := ((← shell).value? "PATH").getD ""
  let files ← files
  let found := if name.contains '/' then .program name else findProgram files path name
  let result ←
    match found with
    | .program path => engine.startProgram path fields
    | .missing reason => pure (.error (if reason = "not found" then 127 else 126, reason))
    | _ => pure (.error (127, "not found"))
  match result with
  | .ok (.code status) =>
    setStatus status
    changeShell fun shell => { shell with traps := [] }
    throw .ended
  | .ok (.signal signal) => throw (.killed (← shell).self signal)
  | .error (status, reason) =>
    setStatus status
    warn s!"{name}: {reason}"
    throw .ended

def sourcePath (name : String) : Action String := do
  if name.contains '/' then return name
  let files ← files
  let path := ((← shell).value? "PATH").getD ""
  let candidates := (Text.pieces ':' path.toList).map fun directory =>
    if directory.isEmpty then name else String.ofList directory ++ "/" ++ name
  match candidates.find? fun path => files.find path matches .ok (.file _) | .ok (.program _) with
  | some path => return path
  | none => fail s!"{name}: not found"

def runSource (arguments : List String) : Action Nat := do
  match ← Builtin.operands arguments with
  | [] => return 0
  | name :: _ =>
    let path ← sourcePath name
    let channel ← openFile .read path
    changeShell fun shell => { shell with command := some path }
    let status ← apart (engine.runLines false maxLines (.channel channel {}) 0)
    changeShell fun shell =>
      { shell with
        skip := if shell.skip = some .returning || shell.skip = some .leaving then none else shell.skip }
    return status

/-- Tells what names stand for, as options ask for. -/
def describeCommand (arguments : List String) : Action Nat := do
  let (given, arguments) ← Builtin.options { bare := ['p', 'v', 'V'] } arguments
  let path := if given.any (·.1 = 'p') then some standardPath else none
  match arguments with
  | name :: _ =>
    if given.all (·.1 = 'p') then return 0
    describe (given.any (·.1 = 'V')) path name
  | [] => return 0

def describeAll (arguments : List String) : Action Nat := do
  let mut status := 0
  for name in arguments do
    status := status ||| (← describe true none name)
  return status

def exit (arguments : List String) : Action Nat := do
  match arguments with
  | argument :: _ => setStatus (← needNumber argument)
  | [] =>
    if let some status := (← shell).statusBeforeTrap then setStatus status
  throw .ended

def leaveLoops (skip : Nat → Skip) (arguments : List String) : Action Nat := do
  let n ←
    match arguments with
    | argument :: _ =>
      let n ← needNumber argument
      if n = 0 then fail (badNumber argument)
      pure n
    | [] => pure 1
  let n := min n (← shell).loops
  if 0 < n then changeShell fun shell => { shell with skip := some (skip n) }
  return 0

def leaveFunction (arguments : List String) : Action Nat := do
  let (skip, status) ←
    match arguments with
    | argument :: _ => pure (Skip.returning, ← needNumber argument)
    | [] => pure (Skip.leaving, (← shell).status)
  changeShell fun shell => { shell with skip := some skip }
  return status

def ownCommand (name : String) (arguments : List String) (mode : Mode) : Action Nat :=
  match name with
  | "." => engine.runSource arguments
  | ":" | "true" => return 0
  | "false" => return 1
  | "[" => Builtin.test true arguments
  | "alias" => Builtin.changeAliases arguments
  | "break" => leaveLoops .breaking arguments
  | "cd" => Builtin.changeDirectory arguments
  | "command" => describeCommand arguments
  | "continue" => leaveLoops .continuing arguments
  | "echo" => Builtin.echo arguments
  | "eval" =>
    if arguments.isEmpty then return 0
    else engine.runText mode.tested (" ".intercalate arguments)
  | "exec" => if arguments.isEmpty then return 0 else engine.replaceShell arguments
  | "exit" => exit arguments
  | "export" => Builtin.exportVariables arguments
  | "getopts" => Builtin.getopts arguments
  | "kill" => Builtin.kill arguments
  | "local" => Builtin.localVariables arguments
  | "printf" => Builtin.printf arguments
  | "pwd" => Builtin.showDirectory arguments
  | "read" => Builtin.read arguments
  | "readonly" => Builtin.protectVariables arguments
  | "return" => leaveFunction arguments
  | "set" => Builtin.changeSettings arguments
  | "shift" => Builtin.shift arguments
  | "test" => Builtin.test false arguments
  | "trap" => Builtin.trap arguments
  | "type" => describeAll arguments
  | "umask" => Builtin.umask arguments
  | "unalias" => Builtin.dropAliases arguments
  | "unset" => Builtin.unset arguments
  | "wait" => do
    let names ← Builtin.operands arguments
    engine.runOwnPending
    Builtin.wait names
  | _ => return 0

/-- Runs a command of the shell itself under its name. What it could not write makes it fail. -/
def runOwn (fields : List String) (mode : Mode) : Action Nat := do
  let name := fields.headD ""
  let saved := (← shell).command
  changeShell fun shell => { shell with command := some name }
  andFinally
    (do
      let status ← andFinally (engine.ownCommand name fields.tail mode) flush
      let failed := (← shell).outputFailed
      if failed then
        let name := ((← shell).command).getD name
        warn s!"{name}: I/O error"
      let status := if failed then status ||| 1 else status
      setStatus status
      return status)
    (changeShell fun shell => { shell with command := saved, outputFailed := false })

def maxCalls : Nat := 1000

def callFunction (function : Function) (arguments : List String) (mode : Mode) : Action Nat := do
  let before ← shell
  if before.calls = maxCalls then
    fail s!"Maximum function recursion depth ({maxCalls}) reached"
  changeShell fun shell =>
    { shell with
      parameters := arguments, optionIndex := 1, optionPlace := none, loops := 0
      calls := before.calls + 1 }
  andFinally (engine.run function.body { tested := mode.tested }) (changeShell fun shell =>
    { shell with
      parameters := before.parameters
      optionIndex := before.optionIndex
      optionPlace := before.optionPlace
      loops := before.loops
      calls := before.calls
      skip := if shell.skip = some .returning || shell.skip = some .leaving then none else shell.skip })

/-- What stands in front of a command that is shown. -/
def traceLead : Action String := do
  changeShell fun shell => { shell with tracing := true }
  let lead ← engine.expandedValue "PS4"
  changeShell fun shell => { shell with tracing := false }
  return lead

/-- Shows a command that is about to be run, if that is wanted. -/
def trace (assignments fields : List String) : Action Unit := do
  let shell ← shell
  if shell.has 'x' && !shell.tracing then
    let text := (← engine.traceLead) ++ " ".intercalate (assignments ++ fields) ++ "\n"
    if let some channel := shell.traceDescriptor then discard (writeChannel channel text)

/-- Runs what the name of a command stands for. -/
def dispatch (prepared : Prepared) (mode : Mode) : Action Nat := do
  let fields := prepared.fields
  let name := fields.headD ""
  if fields.isEmpty then return (← shell).outputStatus
  let found ←
    match prepared.found with
    | .own => pure .own
    | _ => programPath prepared name
  match found with
  | .own =>
    match ← attempt (engine.runOwn fields mode) with
    | .ok status => return status
    | .error .failed => if prepared.special then throw .failed else return (← shell).status
    | .error stop => throw stop
  | .function function => engine.callFunction function fields.tail mode
  | .program path =>
    if !name.contains '/' && !prepared.standardPath then track name path
    engine.runProgram path fields mode
  | .missing reason =>
    warn s!"{name}: {reason}"
    if prepared.special then
      setStatus 127
      throw .failed
    return 127

/-- Sets the variables in front of a command, and gives the assignments as texts. -/
def assign (ownVariables exported : Bool) (assignments : List Word) : Action (List String) :=
  assignments.mapM fun word => do
    let text ← expandText engine.capture { assignment := true } word
    if ownVariables then makeLocal text true
    else
      let (name, value) := splitAssignment text
      setVariable name (value.getD "") exported
    return text

def runSimple (line : Nat) (assignments words : List Word) (redirections : List Redirection)
    (mode : Mode) : Action Nat := do
  changeShell fun shell => { shell with line, outputStatus := 0 }
  let prepared ← engine.expandCommand words
  let keeps := prepared.found matches .own && prepared.fields.head? = some "exec"
  let exported := keeps && 1 < prepared.fields.length
  let traced : Action Unit :=
    changeShell fun shell => { shell with traceDescriptor := shell.channel? 2 }
  let act : Action Nat := do
    let texts ← engine.assign prepared.ownVariables exported assignments
    engine.trace texts (prepared.lead ++ prepared.fields)
    engine.dispatch prepared mode
  let redirected : Action Nat := do
    let resolved ← redirections.mapM (resolve engine.capture)
    let whole : Action Nat := do
      traced
      if ← redirectAll engine.capture resolved then act
      else
        setStatus 2
        if prepared.special then throw .failed
        return 2
    if keeps then keepingDescriptors resolved whole else restoringDescriptors resolved whole
  let status ← if prepared.ownVariables then withLocals redirected else redirected
  return status

end Engine

/-- Runs a command of any kind. Gives its status, and whether the shell may end because of it. -/
def runKind (engine : Engine) (command : Command) (mode : Mode) : Action (Nat × Bool) := do
  match command with
  | .nothing => return ((← shell).status, false)
  | .negated body =>
    let status ← engine.run body { tested := true }
    if (← shell).skip.isSome then return (status, false)
    return (if status = 0 then 1 else 0, false)
  | .redirected line body redirections =>
    engine.runRedirected line body redirections mode
  | .simple line assignments words redirections =>
    return (← engine.runSimple line assignments words redirections mode, true)
  | .each line name words body => return (← engine.runEach line name words body mode, false)
  | .loop whileFailing test body => return (← engine.runLoop whileFailing test body mode, false)
  | .subshell line body redirections =>
    return (← engine.runSubshell line body redirections mode, true)
  | .background line body redirections =>
    return (← engine.runInBackground line body redirections, true)
  | .pipeline commands background =>
    return (← engine.runPipeline background mode commands, true)
  | .choice line word cases => return (← engine.runChoice line word cases mode, false)
  | .both first second =>
    let status ← engine.run first { tested := true }
    if status ≠ 0 || (← shell).skip.isSome then return (status, false)
    return (← engine.run second mode, false)
  | .either first second =>
    let status ← engine.run first { tested := true }
    if status = 0 || (← shell).skip.isSome then return (status, false)
    return (← engine.run second mode, false)
  | .sequence first second =>
    let status ← engine.run first { tested := mode.tested }
    if (← shell).skip.isSome then return (status, false)
    return (← engine.run second mode, false)
  | .branch test yes no =>
    let status ← engine.run test { tested := true }
    if (← shell).skip.isSome then return (status, false)
    if status = 0 then return (← engine.run yes mode, false)
    else if no.isNothing then return (0, false)
    else return (← engine.run no mode, false)
  | .define name line body =>
    forgetProgram name
    changeShell fun shell =>
      { shell with functions := shell.functions.insert name { line, body } }
    return (0, false)

/-- Runs commands. `depth` bounds how deep they stand in one another; a process that goes deeper is
ended for lack of memory. -/
def runCommand (programs : List (String × Program)) : Nat → Command → Mode → Action Nat
  | 0, _, _ => do throw (.killed (← shell).self 11)
  | depth + 1, command, mode => do
    let engine : Engine := { programs, run := runCommand programs depth }
    if !(← shell).has 'n' then
      engine.runTraps
      let (status, checked) ← runKind engine command mode
      setStatus status
      engine.runTraps
      if checked && status ≠ 0 && !mode.tested && (← shell).has 'e' then throw .ended
    if mode.last then throw .ended
    return (← shell).status

def maxDepth : Nat := 20000

def runAsProgram (programs : List (String × Program)) (call : Call) : Outcome :=
  let engine : Engine := { programs, run := runCommand programs maxDepth }
  let input : Channel :=
    match call.input with
    | .ok _ => { endpoint := .pipe 0, writable := false }
    | .error _ => { endpoint := .directory }
  let world : World :=
    { files := call.files
      pipes := #[{ front := call.unread }, {}, {}]
      channels := #[input, { endpoint := .pipe 1, readable := false },
        { endpoint := .pipe 2, readable := false }] }
  let shell : Interpreter := { self := 4241, parent := 4240, directory := call.files.home }
  let shellCall : ShellCall :=
    { name := call.name, arguments := call.arguments, environment := call.environment }
  let run := andFinally (engine.runShell shellCall shell) engine.runPending
  let (ending, state) := run.run.run { shell, world }
  { status := ending.toOption.getD (.code 2)
    output := (state.world.pipe 1).bytes
    errors := (state.world.pipe 2).bytes
    unread := (state.world.pipe 0).bytes }

end WidgetPipeline.Shell
