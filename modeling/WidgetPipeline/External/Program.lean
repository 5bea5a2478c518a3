import WidgetPipeline.Text.Utf8

/-!
External programs as functions. A call has a program's name, its arguments and environment, and the
bytes of its input; the program leaves a status and the bytes of two outputs, or cannot be started.
A `Host` is what a run has in the way of programs.
-/

namespace WidgetPipeline.External

structure Invocation where
  program : String
  arguments : List String := []
  environment : List (String × String) := []
  input : List UInt8 := []
deriving DecidableEq, Repr

inductive ExitStatus where
  | code (n : Nat)
  | signal (n : Nat)
deriving DecidableEq, Repr

namespace ExitStatus

/-- Whether the program ended well. -/
def success (status : ExitStatus) : Bool := status = .code 0

/-- The names of the signals, from 1 on. -/
def signalNames : List String :=
  ["HUP", "INT", "QUIT", "ILL", "TRAP", "ABRT", "BUS", "FPE", "KILL", "USR1", "SEGV", "USR2", "PIPE",
    "ALRM", "TERM", "STKFLT", "CHLD", "CONT", "STOP", "TSTP", "TTIN", "TTOU", "URG", "XCPU", "XFSZ",
    "VTALRM", "PROF", "WINCH", "IO", "PWR", "SYS"]

def signalSuffix (n : Nat) : String :=
  match if n = 0 then none else signalNames[n - 1]? with
  | some name => s!" (SIG{name})"
  | none => ""

def message : ExitStatus → String
  | .code n => s!"exit status: {n}"
  | .signal n => s!"signal: {n}" ++ signalSuffix n

end ExitStatus

structure Outcome where
  status : ExitStatus := .code 0
  output : List UInt8 := []
  errors : List UInt8 := []
  /-- Both outputs in the order in which they were written. -/
  joined : List UInt8 := errors ++ output
  /-- The part of the input that the program did not read. -/
  unread : List UInt8 := []
deriving DecidableEq, Repr

inductive StartError where
  | notFound
  | denied
  | notDirectory
  /-- The name of the program, or a name on its path, has too many bytes. -/
  | tooLong
  /-- The arguments and variables have too many bytes. -/
  | tooMuch
  /-- The call holds the character with the code 0. -/
  | badText
deriving DecidableEq, Repr

def StartError.message : StartError → String
  | .notFound => "No such file or directory (os error 2)"
  | .denied => "Permission denied (os error 13)"
  | .notDirectory => "Not a directory (os error 20)"
  | .tooLong => "File name too long (os error 36)"
  | .tooMuch => "Argument list too long (os error 7)"
  | .badText => "nul byte found in provided data"

abbrev Host := Invocation → Except StartError Outcome

/-- The texts of a call that reach the program as they are. -/
def Invocation.texts (invocation : Invocation) : List String :=
  invocation.program :: invocation.arguments ++
    invocation.environment.flatMap fun entry => [entry.1, entry.2]

/-- Calls a program. No text of the call may hold the character with the code 0, which ends texts
there. -/
def Host.call (host : Host) (invocation : Invocation) : Except StartError Outcome :=
  if invocation.texts.any (·.toList.contains '\x00') then .error .badText else host invocation

end WidgetPipeline.External
