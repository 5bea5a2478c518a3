import WidgetPipeline.Shell.World

/-!
A shell: its variables, functions and settings, and where its descriptors lead. What a shell does is an
action on it and on the world; an action may stop because the shell ends, because of an error, or
because a signal ends a process.
-/

namespace WidgetPipeline.Shell

/-- A variable. One without a value is only marked. -/
structure Variable where
  value : Option String := none
  exported : Bool := false
  readOnly : Bool := false
deriving Repr

inductive Skip where
  | breaking (loops : Nat)
  | continuing (loops : Nat)
  | returning
  | leaving
deriving DecidableEq, Repr

structure Function where
  line : Nat
  body : Command

/-- What a function sets back when it ends. -/
inductive LocalEntry where
  | variable (name : String) (old : Option Variable)
  | options (old : List Char)
  | badName (name : String)

/-- A process that a shell does not wait for at once. -/
structure Job where
  number : Nat
  process : Nat
  /-- The shell knows that it ended. -/
  noticed : Bool := false
  waited : Bool := false
deriving Repr

structure Interpreter where
  /-- The name by which it was called, which its messages start with. -/
  name : String := "sh"
  /-- The number of the process that it shows. -/
  process : Nat := 0
  /-- The number of the process that it is. -/
  self : Nat := 0
  parent : Nat := 0
  bindings : OrderedMap String Variable := ∅
  functions : OrderedMap String Function := ∅
  /-- The aliases with their texts, older ones first. -/
  aliases : List (String × String) := []
  options : List Char := []
  parameters : List String := []
  /-- The number of the argument that is searched for options next, and the place in the last one. -/
  optionIndex : Nat := 1
  optionPlace : Option Nat := none
  locals : List (List LocalEntry) := []
  /-- The commands for signals; that for the number 0 is run at the end. -/
  traps : List (Nat × String) := []
  /-- The processes from which this one comes, each with its commands for signals. -/
  ancestors : List (Nat × List (Nat × String)) := []
  /-- The signals that were ignored from the start, which no command changes. -/
  ignored : List Nat := []
  status : Nat := 0
  statusBeforeTrap : Option Nat := none
  /-- The status of the last command whose output became part of a command. -/
  outputStatus : Nat := 0
  /-- The line of the command at work. There is none before the first command. -/
  line : Nat := 0
  /-- The line up to which the text was read. -/
  readLine : Nat := 1
  /-- The line up to which the script of the shell was read, if the text is another one. -/
  scriptLine : Option Nat := none
  /-- The end of a text was met, and meets whoever reads in the middle of a word next. -/
  endMet : Bool := false
  command : Option String := none
  skip : Option Skip := none
  loops : Nat := 0
  calls : Nat := 0
  descriptors : List (Nat × Nat) := [(0, 0), (1, 1), (2, 2)]
  /-- The channel for messages in front of the redirections of a command. -/
  traceDescriptor : Option Nat := none
  /-- What stands in front of a command that is shown is found out now. Nothing is shown meanwhile. -/
  tracing : Bool := false
  /-- What the command at work wrote to its output, the last text first. It is passed on at the end. -/
  held : List String := []
  outputFailed : Bool := false
  umask : Nat := 0o022
  /-- The directory from which paths start. -/
  directory : List String := []
  /-- The path by which the directory was reached. -/
  shownDirectory : String := "/"
  /-- The path of the directory without links, if it was asked for. -/
  physicalDirectory : Option String := none
  /-- The paths of programs that were found by their names. -/
  tracked : OrderedMap String String := ∅
  background : Option Nat := none
  /-- The processes that were not waited for at once, the last one first. -/
  jobs : List Job := []

inductive Stop where
  | ended
  | failed
  | killed (process signal : Nat)
  | endless
deriving DecidableEq, Repr

/-- Processes that were started and not waited for, and did not run yet. Each reads what the last one
wrote. -/
structure Pending where
  first : Nat
  commands : List Command
  /-- The status of the last one is looked at. -/
  tested : Bool
  shell : Interpreter

def Pending.last (pending : Pending) : Nat := pending.first + pending.commands.length - 1

def keySignals : List Nat := [2, 3]

/-- Whether the last process ignores a signal. One for which its shell has a command is lost. -/
def Pending.ignores (pending : Pending) (signal : Nat) : Bool :=
  signal ≠ 9 && (keySignals.contains signal || pending.shell.ignored.contains signal ||
    (pending.shell.traps.lookup signal).isSome)

structure State where
  shell : Interpreter
  world : World
  /-- What is still to be run, in the order in which it was started. -/
  pending : List Pending := []

abbrev Action := ExceptT Stop (StateM State)

def shell : Action Interpreter := return (← get).shell

def world : Action World := return (← get).world

def files : Action FileTree := do
  let state ← get
  return { state.world.files with home := state.shell.directory }

def changeShell (f : Interpreter → Interpreter) : Action Unit :=
  modify fun state => { state with shell := f state.shell }

def endOf? (process : Nat) : Action (Option External.ExitStatus) :=
  return (← world).ended.lookup process

def changeWorld (f : World → World) : Action Unit :=
  modify fun state => { state with world := f state.world }

namespace Interpreter

def has (shell : Interpreter) (option : Char) : Bool := shell.options.contains option

def value? (shell : Interpreter) (name : String) : Option String :=
  (shell.bindings.get? name).bind (·.value)

def channel? (shell : Interpreter) (descriptor : Nat) : Option Nat := shell.descriptors.lookup descriptor

def withDescriptor (shell : Interpreter) (descriptor : Nat) (channel : Option Nat) : Interpreter :=
  let others := shell.descriptors.filter (·.1 ≠ descriptor)
  { shell with
    descriptors :=
      match channel with
      | some channel => (descriptor, channel) :: others
      | none => others }

def environment (shell : Interpreter) : List (String × String) :=
  shell.bindings.toList.filterMap fun (name, variable_) =>
    if variable_.exported then variable_.value.map (name, ·) else none

def fieldSeparators (shell : Interpreter) : String := (shell.value? "IFS").getD " \t\n"

end Interpreter

/-- Signals that do nothing unless they are caught. -/
def harmlessSignals : List Nat := [17, 18, 19, 20, 21, 22, 23, 28]

/-- Sends a signal to the process of the shell itself, or to one from which it comes, which gets it once
it has waited for what it waits for. -/
def deliver (process signal : Nat) : Action Unit := do
  let shell ← shell
  let traps :=
    if process = shell.self then shell.traps else (shell.ancestors.lookup process).getD []
  if signal = 0 || (signal ≠ 9 && shell.ignored.contains signal) then return
  let send : Action Unit :=
    changeWorld fun world => { world with signals := world.signals ++ [(process, signal)] }
  match if signal = 9 then none else traps.lookup signal with
  | some "" => return
  | some _ => send
  | none =>
    if !harmlessSignals.contains signal then
      if process ≠ shell.self then send
      else throw (.killed process signal)

/-- Ends the process if there is a signal for it that ends it. -/
def takeDeadly : Action Unit := do
  let state ← get
  let shell := state.shell
  let deadly := state.world.signals.find? fun (process, signal) =>
    process = shell.self && !harmlessSignals.contains signal &&
      (signal = 9 || (shell.traps.lookup signal).isNone)
  if let some (process, signal) := deadly then throw (.killed process signal)

def pipeSignal : Nat := 13

/-- Writes bytes to a channel. Gives whether they could be written. -/
def writeChannel (channel : Nat) (text : String) : Action Bool := do
  match (← world).write channel (Text.toBytes text) with
  | .ok after =>
    let broken := after.isBroken channel
    changeWorld fun _ => after
    if broken then deliver (← shell).self pipeSignal
    return !broken
  | .error _ => return false

/-- Writes a text to the second output. What cannot be written is lost. -/
def printError (text : String) : Action Unit := do
  if let some channel := (← shell).channel? 2 then discard (writeChannel channel text)

/-- Writes a text to the output, which is held back. -/
def print (text : String) : Action Unit :=
  changeShell fun shell => { shell with held := text :: shell.held }

/-- Passes on the output that was held back. -/
def flush : Action Unit := do
  let text := String.join (← shell).held.reverse
  if text.isEmpty then return
  changeShell fun shell => { shell with held := [] }
  let written ←
    match (← shell).channel? 1 with
    | some channel => writeChannel channel text
    | none => pure false
  if !written then changeShell fun shell => { shell with outputFailed := true }

/-- Writes a message with the place where it arose. -/
def warn (text : String) : Action Unit := do
  let shell ← shell
  let command := (shell.command.map fun command => command ++ ": ").getD ""
  printError s!"{shell.name}: {shell.line}: {command}{text}\n"

def setStatus (status : Nat) : Action Unit := changeShell fun shell => { shell with status }

def fail {α : Type} (text : String) : Action α := do
  setStatus 2
  warn text
  throw .failed

def badNumber (text : String) : String := s!"Illegal number: {text}"

/-- Whether a reason to stop is one for a whole process, whatever surrounds it. -/
def Stop.passes : Stop → Bool
  | .ended | .failed => false
  | .killed .. | .endless => true

def attempt {α : Type} (action : Action α) : Action (Except Stop α) := fun state =>
  let (result, state) := action.run.run state
  (.ok result, state)

def andFinally {α : Type} (action : Action α) (after : Action Unit) : Action α := do
  let result ← attempt action
  after
  match result with
  | .ok value => return value
  | .error stop => throw stop

end WidgetPipeline.Shell
