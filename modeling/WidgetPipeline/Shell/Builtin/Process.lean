import WidgetPipeline.Shell.Builtin.Jobs

/-!
The commands about signals. A signal that is not caught ends the process that it is sent to;
a command for it is run between two other commands.
-/

namespace WidgetPipeline.Shell.Builtin

/-- The names of the signals as the shell lists them, from that with the number 0 on. -/
def signalNames : List String :=
  let usual := External.ExitStatus.signalNames.map fun name => if name = "STKFLT" then "16" else name
  let later := (List.range 15).map fun n => s!"RTMIN+{n + 1}"
  let last := (List.range 14).map fun n => s!"RTMAX-{14 - n}"
  ["EXIT"] ++ usual ++ ["32", "33", "RTMIN"] ++ later ++ last ++ ["RTMAX"]

/-- The number of a signal that is given by its number or its name. -/
def signalOf? (least : Nat) (text : String) : Option Nat :=
  match decimalNumber? text with
  | some n => if least ≤ n && n < signalNames.length then some n else none
  | none =>
    let wanted := text.toList.map Char.toUpper
    (List.range signalNames.length).find? fun n =>
      least ≤ n && (signalNames[n]?).any fun name => name.toList = wanted

def killUsage : String :=
  "Usage: kill [-s sigspec | -signum | -sigspec] [pid | job]... or\nkill -l [exitstatus]"

/-- Sends a signal to a process. Gives whether there is one. -/
def send (process signal : Nat) : Action Bool := do
  let shell ← shell
  if process = 0 then
    deliver shell.process signal
    return true
  else if process = shell.self || (shell.ancestors.lookup process).isSome then
    deliver process signal
    return true
  else if shell.jobs.any fun job => job.process = process && !job.noticed then
    let pending := (← get).pending.find? (·.last = process)
    let ends := !(harmlessSignals.contains signal || pending.any (·.ignores signal))
    if signal ≠ 0 && ends && (← endOf? process).isNone then
      modify fun state =>
        { state with pending := state.pending.filter (·.last ≠ process) }
      noteEnd process (.signal signal)
    return true
  else return false

def listSignals (arguments : List String) : Action Nat := do
  match arguments with
  | [] =>
    print "0\n"
    for name in signalNames.tail do
      print s!"{name}\n"
    return 0
  | text :: _ =>
    let n ← needNumber text
    let n := if 128 < n then n - 128 else n
    match if n = 0 then none else signalNames[n]? with
    | some name =>
      print s!"{name}\n"
      return 0
    | none => fail s!"invalid signal number or exit status: {text}"

def kill (arguments : List String) : Action Nat := do
  let first := (arguments.headD "").toList
  let (signal, list, arguments) ←
    if first.head? ≠ some '-' then pure (none, false, arguments)
    else
      match signalOf? 1 (String.ofList first.tail) <|>
        (if first = ['-', '0'] then some 0 else none) with
      | some signal => pure (some signal, false, arguments.tail)
      | none =>
        let (given, rest) ← options { bare := ['l'], withValue := ['s'] } arguments
        let signals ← (given.filterMap (·.2)).mapM fun name => do
          match signalOf? 1 name <|> (if name = "0" then some 0 else none) with
          | some n => return n
          | none => fail s!"invalid signal number or name: {name}"
        pure (signals.getLast?, given.any (·.1 = 'l'), rest)
  if arguments.isEmpty && !list || (list && signal.isSome) then fail killUsage
  if list then listSignals arguments
  else
    let signal := signal.getD 15
    let mut status := 0
    for argument in arguments do
      let found ←
        if argument.startsWith "%" then
          discard (namedJob argument)
          pure false
        else if argument.startsWith "-" then
          -- a group of processes, of which there is none
          discard (needNumber (String.ofList (argument.toList.drop 1)))
          pure false
        else send (← needNumber argument) signal
      if !found then
        warn "No such process\n"
        status := 1
    return status

def trap (arguments : List String) : Action Nat := do
  let arguments ← operands arguments
  let name (signal : Nat) : String := signalNames.getD signal ""
  match arguments with
  | [] =>
    for signal in List.range signalNames.length do
      if let some command := (← shell).traps.lookup signal then
        print s!"trap -- {singleQuoted command} {name signal}\n"
    return 0
  | first :: rest =>
    let (command, signals) :=
      if rest.isEmpty || (decimalNumber? first).any (· < signalNames.length) then (none, arguments)
      else (if first = "-" then none else some first, rest)
    for text in signals do
      match signalOf? 0 text with
      | none =>
        printError s!"trap: {text}: bad trap\n"
        return 1
      | some signal =>
        changeShell fun shell =>
          let others := shell.traps.filter (·.1 ≠ signal)
          { shell with
            traps :=
              match command with
              | some command => (signal, command) :: others
              | none => others }
    return 0

end WidgetPipeline.Shell.Builtin
