import WidgetPipeline.Shell.Builtin.Directory
import WidgetPipeline.Shell.Builtin.Jobs
import WidgetPipeline.Shell.Builtin.Print
import WidgetPipeline.Shell.Builtin.Process
import WidgetPipeline.Shell.Builtin.Read
import WidgetPipeline.Shell.Builtin.Settings
import WidgetPipeline.Shell.Builtin.Test
import WidgetPipeline.Shell.Lookup
import WidgetPipeline.Shell.Reader.Command
import WidgetPipeline.Shell.Redirection
import WidgetPipeline.Toolbox.Tool

/-!
Running commands. A command leaves a status. Parts of a command that run as processes of their own are
run one after the other, each with a copy of the shell, so that only what they write and read is seen
outside. Processes that are not waited for are put off until some shell waits for a process or starts a
program, as that takes longer than what a shell does itself. The functions here get the one that runs
commands, which is tied together at the end by a bound on the depth.
-/

namespace WidgetPipeline.Shell

open External (ExitStatus Outcome)
open Toolbox (Call)

structure Mode where
  /-- Its status is looked at, and does not end the shell. -/
  tested : Bool := false
  /-- It is the last thing that its process does. -/
  last : Bool := false

/-- The programs that a shell can start, by their names. A program is a tool or another shell. -/
inductive Program where
  | tool (run : Call → Outcome)
  | shell

structure Engine where
  programs : List (String × Program)
  run : Command → Mode → Action Nat

inductive Script where
  | text (source : Source)
  | channel (index : Nat) (source : Source)
  /-- The bytes that the shell's input still has, wherever it leads. -/
  | input (source : Source)

def Script.source : Script → Source
  | .text source | .channel _ source | .input source => source

def Script.withSource (source : Source) : Script → Script
  | .text _ => .text source
  | .channel index _ => .channel index source
  | .input _ => .input source

def Script.channel? (script : Script) : Action (Option Nat) := do
  match script with
  | .text _ => return none
  | .channel index _ => return some index
  | .input _ => return (← shell).channel? 0

/-- Ends of loops and functions that were asked for, as they are seen at the end of a round: whether
the loop ends. -/
def endRound : Action Bool := do
  match (← shell).skip with
  | none => return false
  | some (.breaking n) =>
    changeShell fun shell => { shell with skip := if n ≤ 1 then none else some (.breaking (n - 1)) }
    return true
  | some (.continuing n) =>
    changeShell fun shell =>
      { shell with skip := if n ≤ 1 then none else some (.continuing (n - 1)) }
    return 1 < n
  | some _ => return true

/-- Repeats an action until it asks for an end. `fuel` bounds the rounds. -/
def repeatRounds (round : Action Bool) : Nat → Action Unit
  | 0 => return
  | fuel + 1 => do
    if ← round then return
    repeatRounds round fuel

def maxRounds : Nat := 100000000

/-- The number of rounds of a loop before what is not waited for runs, and late signals arrive. -/
def lateRounds : Nat := 1000

/-- Counts a round of a loop, where there is a bound on them. -/
def countRound : Action Unit := do
  match (← world).rounds with
  | none => return
  | some 0 => throw .endless
  | some (rounds + 1) => changeWorld fun world => { world with rounds := some rounds }

/-- Runs an action in a loop, so that it can be left. -/
def inLoop {α : Type} (action : Action α) : Action α := do
  changeShell fun shell => { shell with loops := shell.loops + 1 }
  let result ← action
  changeShell fun shell => { shell with loops := shell.loops - 1 }
  return result

namespace Engine

variable (engine : Engine)

/-- Reads from a source, and gives what the reader knows in the end. `tell` gets that also if the text is
wrong. -/
def readFrom {α : Type} (source : Source) (reader : Reader α) (tell : ReadState → Action Unit) :
    Action (α × ReadState) := do
  let shell ← shell
  let world ← world
  let (result, state) := reader.run.run
    { source
      aliases := shell.aliases
      again := shell.endMet
      last := .endOfInput
      nextDocument := world.nextDocument }
  tell state
  changeShell fun shell => { shell with endMet := state.again }
  match result with
  | .error error =>
    changeShell fun shell => { shell with line := state.source.line }
    fail s!"Syntax error: {error.message}"
  | .ok a =>
    changeWorld fun world =>
      { world with
        documents := state.documents ++ world.documents
        nextDocument := state.nextDocument }
    return (a, state)

def maxLines : Nat := 100000000

/-- Reads the commands of a line of a script, and gives what is left of it. What was fetched from a
channel is gone, even if it is wrong. -/
def readCommands (script : Script) : Action (Option Command × Script) := do
  let channel ← script.channel?
  let reserve ←
    match channel with
    | none => pure script.source.reserve
    | some index =>
      let bytes := ((← world).available index).toOption.getD []
      pure (Text.ofBytes bytes).toList
  let source := { script.source with reserve }
  let shown := channel.isSome && (← shell).has 'v'
  let (command, state) ← readFrom source Reader.lineCommands fun state => do
    let after := state.source
    if shown then
      printError (String.ofList (Source.linesRead source.toList after.length).flatten)
    changeShell fun shell => { shell with readLine := after.line }
    if let some index := channel then
      changeWorld (·.leave index (Text.toBytes (String.ofList after.reserve)))
      if after.reserve.isEmpty then changeWorld (·.ask index)
  return (command, script.withSource { state.source with reserve := [] })

/-- Runs the commands of a script line by line. `fuel` bounds the number of lines. -/
def runLines (tested : Bool) : Nat → Script → Nat → Action Nat
  | 0, _, status => return status
  | fuel + 1, script, status => do
    let (command, script) ← readCommands script
    match command with
    | none => return status
    | some command =>
      let after ← engine.run command { tested }
      let status := if command.isNothing then status else after
      if (← shell).skip.isSome then return status
      runLines tested fuel script status

/-- Does something that reads another script. The line of the script that is left for it stays known. -/
def apart {α : Type} (action : Action α) : Action α := do
  let { readLine, scriptLine, .. } ← shell
  changeShell fun shell => { shell with scriptLine := some (scriptLine.getD readLine) }
  andFinally action (changeShell fun shell => { shell with readLine, scriptLine })

def runText (tested : Bool) (text : String) : Action Nat :=
  apart (engine.runLines tested (text.length + 2) (.text (.ofText text)) 0)

def runTraps : Action Unit := do
  let state ← get
  let shell := state.shell
  let mine := state.world.signals.filter (·.1 = shell.self)
  if mine.isEmpty || shell.skip.isSome then return
  changeWorld fun world =>
    { world with signals := world.signals.filter fun signal => signal.1 ≠ shell.self }
  let status := shell.statusBeforeTrap.getD shell.status
  changeShell fun shell => { shell with statusBeforeTrap := some status }
  let signals := (List.range 65).filter fun n => mine.any (·.2 = n)
  for signal in signals do
    if let some command := (← Shell.shell).traps.lookup signal then
      discard (engine.runText false command)
      if (← Shell.shell).skip ≠ some .returning then setStatus status
  changeShell fun after => { after with statusBeforeTrap := shell.statusBeforeTrap }

/-- Does what a shell does at its end, and gives the status that it leaves. -/
def conclude : Action Nat := do
  let shell ← shell
  match shell.traps.lookup 0 with
  | none => return shell.status % 256
  | some command =>
    changeShell fun shell =>
      { shell with
        traps := shell.traps.filter (·.1 ≠ 0)
        skip := none
        statusBeforeTrap := some shell.status }
    match ← attempt (engine.runText false command) with
    | .ok _ => return shell.status % 256
    | .error stop => if stop.passes then throw stop else return (← Shell.shell).status % 256

/-- The status that stands for a way to end. A signal is told about. -/
def statusOf (status : ExitStatus) : Action Nat := do
  tellSignal status
  return statusNumber status

/-- The copy of a shell with which another process starts. It only knows the script of the shell. -/
def childOf (shell : Interpreter) (process : Nat) : Interpreter :=
  { shell with
    self := process
    parent := shell.self
    traps := shell.traps.filter (·.2.isEmpty)
    ancestors := (shell.self, shell.traps) :: shell.ancestors
    readLine := shell.scriptLine.getD shell.readLine
    scriptLine := none
    jobs := []
    outputFailed := false }

/-- Runs an action as all that a process does, and gives its status or what stopped it. -/
def ending (action : Action Unit) : Action (Except Stop Nat) :=
  attempt do
    match ← attempt action with
    | .ok () => engine.conclude
    | .error stop => if stop.passes then throw stop else engine.conclude

def newProcesses (count : Nat) : Action Nat := do
  let first := (← world).nextProcess
  changeWorld fun world => { world with nextProcess := first + count }
  return first

/-- Runs an action as the process with a number, which starts as a copy of the shell, and tells how it
ended. -/
def inProcess (process : Nat) (action : Action Unit) : Action ExitStatus := do
  let parent ← shell
  changeShell fun _ => childOf parent process
  let ending ← engine.ending action
  changeShell fun _ => parent
  match ending with
  | .ok status => return .code status
  | .error (.killed killed signal) =>
    if killed = process then return .signal signal else throw (.killed killed signal)
  | .error .endless => throw .endless
  | .error _ => return .code 2

def readNothing : Action Unit := do
  let (channel, after) := (← world).addChannel { endpoint := .device .null }
  changeWorld fun _ => after
  changeShell (·.withDescriptor 0 (some channel))

def ignoreKeys : Action Unit :=
  changeShell fun shell => { shell with ignored := keySignals ++ shell.ignored }

/-- Finds the program that a command names, if it is simple and names one plainly. -/
def seekProgram : Command → Action Unit
  | .simple _ _ (word :: _) _ => do
    if let some name := plainText? word then
      if isName name then
        let shell ← shell
        let path := (shell.value? "PATH").getD ""
        if let .program path := findCommand shell (← files) true path name then track name path
  | _ => return

/-- The room of pipes, as far as it is tried out. -/
def pipeRooms : List Nat := [65536, 1048576, 8388608]

/-- The bound on the rounds of loops of a process that is not waited for. -/
def maxBackgroundRounds : Nat := 100000

def maxPending : Nat := 100000000

section

variable (settle : Action Unit)

/-- Runs commands each of which reads what the last one wrote, as processes of their own that are
numbered from `process` on. `room` is that of the last pipe; those in front have more. Behind each that
another one reads from, `settle` runs the processes that it started and did not wait for. -/
def runStages (background : Bool) (room : Option Nat) (mode : Mode) :
    (process : Nat) → (input : Option Nat) → List Command → ExitStatus → Action ExitStatus
  | _, _, [], ended => return ended
  | process, input, command :: commands, _ => do
    seekProgram command
    let room' := room.map (· * Nat.pow 2 commands.length)
    let (pipe, after) := (← world).addPipe { room := room' }
    let (reading, after) := after.addChannel { endpoint := .pipe pipe, writable := false }
    let (writing, after) := after.addChannel { endpoint := .pipe pipe, readable := false }
    changeWorld fun _ => after
    let ended ← engine.inProcess process do
      if background then ignoreKeys
      if let some channel := input then changeShell (·.withDescriptor 0 (some channel))
      else if background then readNothing
      if !commands.isEmpty then changeShell (·.withDescriptor 1 (some writing))
      discard (engine.run command { mode with last := true })
    if !commands.isEmpty then
      settle
      if !background then tellSignal ended
    runStages background room mode (process + 1) (some reading) commands ended

/-- Runs commands each of which reads what the last one wrote, and tells how the last one ended. If
their pipes have too little room, all is done again with more. -/
def runPiped (background : Bool) (mode : Mode) (process : Nat) (commands : List Command) :
    List Nat → Action ExitStatus
  | [] => engine.runStages settle background none mode process none commands (.code 0)
  | room :: rooms => do
    let before ← get
    let ended ←
      engine.runStages settle background (some room) mode process none commands (.code 0)
    let pipes := (← world).pipes
    if pipes.any (·.starved) before.world.pipes.size then
      set before
      runPiped background mode process commands rooms
    else return ended

/-- Runs processes that are not waited for, and notes how the last one ended. Those of their loops that
have no end are given up after some rounds, and their signals are late. -/
def runUnawaited (pending : Pending) : Action Unit := do
  let before ← get
  let rounds := before.world.rounds
  changeShell fun _ => pending.shell
  changeWorld fun world =>
    { world with rounds := some (rounds.getD maxBackgroundRounds), signals := [] }
  let mode : Mode := { tested := pending.tested }
  let result ←
    attempt (engine.runPiped settle true mode pending.first pending.commands pipeRooms)
  changeShell fun _ => before.shell
  changeWorld fun world =>
    { world with
      rounds
      signals := before.world.signals
      lateSignals := world.lateSignals ++ world.signals }
  match result with
  | .ok status => noteEnd pending.last status
  | .error (.killed process signal) =>
    changeWorld fun world =>
      { world with lateSignals := world.lateSignals ++ [(process, signal)] }
    noteEnd pending.last (.code 0)
  | .error .endless => return
  | .error stop => throw stop
  deliver pending.shell.self 17

end

/-- Runs processes that were started and not waited for, as long as the list of them asks for it. `fuel`
bounds their number. -/
def runPendingWhile (asks : List Pending → Bool) : Nat → Action Unit
  | 0 => return
  | fuel + 1 => do
    let all := (← get).pending
    match all with
    | [] => return
    | pending :: rest =>
      if !asks all then return
      modify fun state => { state with pending := rest }
      engine.runUnawaited (runPendingWhile (fun _ => true) fuel) pending
      runPendingWhile asks fuel

def runPending : Action Unit := engine.runPendingWhile (fun _ => true) maxPending

/-- Runs the processes that the shell itself started and did not wait for, and those in front of them. -/
def runOwnPending : Action Unit := do
  let self := (← shell).self
  engine.runPendingWhile (fun pending => pending.any (·.shell.self = self)) maxPending

/-- Runs an action in a process of its own, and gives its status. -/
def inChild (action : Action Unit) : Action Nat := do
  makePlace
  engine.runPending
  let status ← engine.inProcess (← newProcesses 1) action
  noticeEnd
  statusOf status

def capture : Capture := fun command => do
  if command.isNothing then return ""
  let (pipe, after) := (← world).addPipe {}
  let (channel, after) := after.addChannel { endpoint := .pipe pipe, readable := false }
  changeWorld fun _ => after
  let status ← engine.inChild do
    changeShell (·.withDescriptor 1 (some channel))
    discard (engine.run command { last := true })
  engine.runPending
  changeShell fun shell => { shell with outputStatus := status }
  let output := Text.ofBytes ((← world).pipe pipe).bytes
  changeWorld (·.setPipe pipe {})
  return String.ofList (output.toList.filter (· ≠ '\x00'))

/-- Runs a command behind some redirections, which are for it alone. Gives the status, and whether it is
that of a redirection. -/
def runRedirected (line : Nat) (body : Command) (redirections : List Redirection) (mode : Mode) :
    Action (Nat × Bool) := do
  changeShell fun shell => { shell with line }
  let resolved ← redirections.mapM (resolve engine.capture)
  restoringDescriptors resolved do
    if ← redirectAll engine.capture resolved then
      return (← engine.run body { tested := mode.tested }, false)
    else return (2, true)

def runEach (line : Nat) (name : String) (words : List Word) (body : Command) (mode : Mode) :
    Action Nat := do
  changeShell fun shell => { shell with line }
  let fields ← expandWords engine.capture words
  inLoop (go fields 0)
where
  go : List String → Nat → Action Nat
    | [], status => return status
    | field :: fields, _ => do
      setVariable name field
      let status ← engine.run body { tested := mode.tested }
      if ← endRound then return status
      go fields status

def runLoop (whileFailing : Bool) (test body : Command) (mode : Mode) : Action Nat :=
  inLoop (go maxRounds 0)
where
  go : Nat → Nat → Action Nat
    | 0, status => return status
    | fuel + 1, status => do
      countRound
      if fuel + lateRounds = maxRounds then
        engine.runPending
        discard receiveLate
      let value ← engine.run test { tested := true }
      let returning := (← shell).skip = some .returning
      let skipping := (← shell).skip.isSome
      if skipping then
        let ended ← endRound
        if ended then return if returning then value else status
        go fuel status
      else if (value == 0) == whileFailing then return status
      else
        let status ← engine.run body { tested := mode.tested }
        if ← endRound then return status
        go fuel status

def runChoice (line : Nat) (word : Word) (cases : List Case) (mode : Mode) : Action Nat := do
  changeShell fun shell => { shell with line }
  let text ← expandText engine.capture { tilde := true } word
  go text.toList cases
where
  matchesAny (text : List Char) : List Word → Action Bool
    | [] => return false
    | pattern :: patterns => do
      if matchesPattern (← expandPattern engine.capture pattern) text then return true
      matchesAny text patterns
  /-- Runs the command for the first of some cases that matches. -/
  go (text : List Char) : List Case → Action Nat
    | [] => return 0
    | .of patterns body :: cases => do
      if ← matchesAny text patterns then
        if body.isNothing then return 0 else engine.run body mode
      else go text cases

def runSubshell (line : Nat) (body : Command) (redirections : List Redirection) (mode : Mode) :
    Action Nat := do
  changeShell fun shell => { shell with line }
  let resolved ← redirections.mapM (resolve engine.capture)
  let inside : Action Unit := do
    resolved.forM (redirect engine.capture false)
    discard (engine.run body { mode with last := true })
  if mode.last && ((← shell).traps.all (·.2.isEmpty)) then
    inside
    return (← shell).status
  else engine.inChild inside

def start (tested : Bool) (commands : List Command) : Action Nat := do
  makePlace
  let shell ← shell
  let pending : Pending :=
    { first := ← newProcesses commands.length, commands, tested, shell }
  modify fun state => { state with pending := state.pending ++ [pending] }
  changeShell fun shell =>
    { shell with background := some pending.last, jobs := addJob pending.last shell.jobs }
  return 0

def runInBackground (line : Nat) (body : Command) (redirections : List Redirection) :
    Action Nat := do
  changeShell fun shell => { shell with line }
  let resolved ← redirections.mapM (resolve engine.capture)
  start false
    [if resolved.isEmpty then body else .redirected line body (resolved.map (·.literal))]

/-- Runs commands each of which reads what the last one wrote. Gives the status of the last. -/
def runPipeline (background : Bool) (mode : Mode) (commands : List Command) : Action Nat := do
  if background then
    let status ← start mode.tested commands
    commands.forM seekProgram
    return status
  else
    makePlace
    engine.runPending
    let process ← newProcesses commands.length
    let status ← engine.runPiped engine.runPending false mode process commands pipeRooms
    noticeEnd
    statusOf status

end Engine

end WidgetPipeline.Shell
