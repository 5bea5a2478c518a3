import WidgetPipeline.Shell.Builtin.Options
import WidgetPipeline.Shell.Variables

/-!
The processes that a shell does not wait for at once. Each has a number until the shell waited for
it or told about its end. A shell goes on when it starts one, which runs only once the shell waits
for some process; and only then the shell learns about ends. Scripts wait for such processes, and
that is the only command about them.
-/

namespace WidgetPipeline.Shell

open External (ExitStatus)

def statusNumber : ExitStatus → Nat
  | .code n => n
  | .signal n => 128 + n

/-- What a shell says about signals that end processes. -/
def signalWords : List (Nat × String) :=
  [(1, "Hangup"), (3, "Quit"), (4, "Illegal instruction"), (5, "Trace/breakpoint trap"),
    (6, "Aborted"), (7, "Bus error"), (8, "Floating point exception"), (9, "Killed"),
    (10, "User defined signal 1"), (11, "Segmentation fault"), (12, "User defined signal 2"),
    (14, "Alarm clock"), (15, "Terminated"), (16, "Stack fault"), (24, "CPU time limit exceeded"),
    (25, "File size limit exceeded"), (26, "Virtual timer expired"),
    (27, "Profiling timer expired"), (29, "I/O possible"), (30, "Power failure"),
    (31, "Bad system call")]

def tellSignal : ExitStatus → Action Unit
  | .code _ => return
  | .signal n => do
    if let some word := signalWords.lookup n then printError s!"{word}\n"

/-- Changes the processes that are not waited for at once. -/
def changeJobs (f : List Job → List Job) : Action Unit :=
  changeShell fun shell => { shell with jobs := f shell.jobs }

def jobOf? (number : Nat) (jobs : List Job) : Option Job := jobs.find? (·.number = number)

/-- Without the first job that was waited for, unless a number in front of it is free. `fuel` bounds the
numbers. -/
def withoutWaited : Nat → Nat → List Job → List Job
  | 0, _, jobs => jobs
  | fuel + 1, number, jobs =>
    match jobOf? number jobs with
    | none => jobs
    | some job =>
      if job.waited then jobs.filter (·.number ≠ number) else withoutWaited fuel (number + 1) jobs

/-- Forgets a process that was waited for, to make place for another one. -/
def makePlace : Action Unit :=
  changeJobs fun jobs => if jobs.any (·.waited) then withoutWaited jobs.length 1 jobs else jobs

def freeNumber (jobs : List Job) : Nat :=
  let unused : Array Bool := Array.replicate (jobs.length + 2) false
  let used := jobs.foldl (fun used job => used.setIfInBounds job.number true) unused
  let numbers := (List.range (jobs.length + 1)).map (· + 1)
  (numbers.find? fun n => used[n]? = some false).getD 1

def addJob (process : Nat) (jobs : List Job) : List Job :=
  { number := freeNumber jobs, process } :: jobs

/-- Notes how a process ended that is not waited for at once. -/
def noteEnd (process : Nat) (status : ExitStatus) : Action Unit :=
  changeWorld fun world => { world with ended := (process, status) :: world.ended }

/-- Lets signals arrive that were late, and tells the last one. -/
def receiveLate : Action (Option Nat) := do
  let state ← get
  let mine := state.world.lateSignals.filter (·.1 = state.shell.self)
  if mine.isEmpty then return none
  changeWorld fun world =>
    { world with lateSignals := world.lateSignals.filter (·.1 ≠ state.shell.self) }
  for (process, signal) in mine do deliver process signal
  return mine.getLast?.map (·.2)

/-- Does what follows when a process was waited for that ended: the ends of others are noticed, too. -/
def noticeEnd : Action Unit := do
  let ended := (← world).ended
  changeJobs fun jobs => jobs.map fun job =>
    { job with noticed := (ended.lookup job.process).isSome }
  deliver (← shell).self 17
  discard receiveLate
  takeDeadly

namespace Builtin

/-- The job that a name with a percent sign stands for. -/
def namedJob (name : String) : Action Job := do
  let jobs := (← shell).jobs
  let orFail (job : Option Job) (message : String) : Action Job :=
    match job with
    | some job => return job
    | none => fail message
  match name.toList with
  | ['%'] | ['%', '%'] | ['%', '+'] => orFail jobs.head? "No current job"
  | ['%', '-'] => orFail jobs[1]? "No previous job"
  | ['%', '?'] =>
    -- a part of the command is meant, and commands are not kept
    if 1 < jobs.length then fail s!"{name}: ambiguous"
    orFail jobs.head? s!"No such job: {name}"
  | _ :: digits =>
    let number := decimalNumber? (String.ofList digits)
    orFail (number.bind (jobOf? · jobs)) s!"No such job: {name}"
  | [] => orFail none s!"No such job: {name}"

def waitFor (job : Job) : Action Nat := do
  let some status ← endOf? job.process | throw .endless
  if !job.noticed then tellSignal status
  changeJobs fun jobs => jobs.map fun other =>
    if other.number = job.number then { other with noticed := true, waited := true } else other
  return statusNumber status

def wait (arguments : List String) : Action Nat := do
  if let some signal := ← receiveLate then return 128 + signal
  let jobs := (← shell).jobs
  if arguments.isEmpty then
    let ends ← jobs.mapM fun job => endOf? job.process
    if ends.any (·.isNone) then throw .endless
    changeJobs fun jobs => jobs.map fun job => { job with noticed := true, waited := true }
    return 0
  let mut status := 127
  for argument in arguments do
    if argument.startsWith "%" then status ← waitFor (← namedJob argument)
    else
      let process ← needNumber argument
      if let some job := (← shell).jobs.find? (·.process = process) then status ← waitFor job
  return status

end Builtin

end WidgetPipeline.Shell
