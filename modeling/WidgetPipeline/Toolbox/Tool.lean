import WidgetPipeline.External.Program
import WidgetPipeline.FileTree.Basic
import WidgetPipeline.Toolbox.Quote

/-!
Tools: programs that read an input, write two outputs and leave a status. A call gives a tool the
word by which it was called, which stands in its messages, its arguments and environment, the files,
and its streams. All texts are byte strings.

The tools are those that stand in for a transpiler or a formatter where only the call itself
matters: `cat` and `true` leave a text as it is or drop it, `tr` changes it, `false` fails, and
`printf`, `echo` and `wc` give another one. Scripts use them too.
-/

namespace WidgetPipeline.Toolbox

open External (ExitStatus Outcome)

inductive Sink where
  | taken
  | closed
  | readOnly
  | full
deriving DecidableEq, Repr

/-- Why an output cannot be written, in words. -/
def Sink.reason? : Sink → Option String
  | .taken => none
  | .closed | .readOnly => some "Bad file descriptor"
  | .full => some "No space left on device"

structure Call where
  name : String
  arguments : List String := []
  environment : List (String × String) := []
  files : FileTree := {}
  /-- The bytes of the input, or why it cannot be read, in words. -/
  input : Except String (List UInt8) := .ok []
  inputOpen : Bool := true
  /-- The file that the input is, by the names on its path. -/
  inputFile : Option (List String) := none
  outputFile : Option (List String) := none
  inputSize : Option Nat := none
  output : Sink := .taken

/-- What a call leaves. The parts of the outputs are kept in the order in which they are written. -/
structure Progress where
  /-- The part of the input that is not read yet, or why it cannot be read. -/
  input : Except String (List UInt8)
  failed : Bool := false
  output : List UInt8 := []
  errors : List String := []
  /-- Both outputs in the order in which they were written, without what is held back. -/
  joined : List UInt8 := []
  held : List UInt8 := []
  /-- A part of the output could not be made. -/
  spoiled : Bool := false

/-- The most bytes of an argument or a variable. -/
def maxTextLength : Nat := 131071

/-- The most bytes of all arguments and variables. -/
def maxTotalLength : Nat := 2097152

/-- Whether arguments and variables are too long to be passed on. Each has a byte at its end and a place
in a table. -/
def areTooMuch (sizes : List Nat) : Bool :=
  sizes.any (maxTextLength < ·) || maxTotalLength < sizes.foldl (· + · + 9) 0

namespace Call

def line (call : Call) (text : String) : String := s!"{call.name}: {text}\n"

def charset (call : Call) : Charset := .ofEnvironment call.environment

def quoted (call : Call) (text : String) : String := Toolbox.quoted call.charset text

def quotedName (call : Call) (name : String) : String := Toolbox.quotedName call.charset name

/-- The part of the input that is left where nothing is read. -/
def unread (call : Call) : List UInt8 := call.input.toOption.getD []

def failWith (call : Call) (lines : List String) (status : Nat := 1) : Outcome where
  status := .code status
  errors := Text.toBytes (String.join lines)
  unread := call.unread

def helpLine (call : Call) : String := s!"Try '{call.name} --help' for more information.\n"

def misused (call : Call) (lines : List String) : Outcome :=
  call.failWith (lines ++ [call.helpLine])

def start (call : Call) : Progress := { input := call.input }

/-- The outcome of what was done. An output that cannot be written fails once there is something to
write. `early` tells that it is written line by line, so that in the end the reason is forgotten unless
there is no output at all. -/
def finish (call : Call) (progress : Progress) (early : Bool := false) : Outcome :=
  let unread := progress.input.toOption.getD []
  let lost := if progress.output.isEmpty then none else call.output.reason?
  let lostLine (reason : String) : String :=
    call.line (if early && call.output ≠ .closed then "write error" else s!"write error: {reason}")
  let spoiled := progress.spoiled && lost.isNone
  let lostLines :=
    if spoiled then [call.line "write error"] else (lost.map lostLine).toList
  let output := if lost.isSome then [] else progress.output
  let last := Text.toBytes (String.join lostLines)
  let errors := Text.toBytes (String.join progress.errors) ++ last
  { status := .code (if progress.failed || lost.isSome || spoiled then 1 else 0)
    output
    errors
    joined := if lost.isSome then errors else progress.joined ++ progress.held ++ last
    unread }

/-- What a tool gets that reads a file: its bytes or the reason why there are none, and what is left
of the input. -/
def read (call : Call) (progress : Progress) (path : String) :
    Except String (List UInt8) × Progress :=
  match call.files.find path with
  | .ok (.device (.stream 0)) => (progress.input, { progress with input := progress.input.map fun _ => [] })
  | _ =>
    match call.files.readWith (fun _ => []) path with
    | .ok bytes => (.ok bytes, progress)
    | .error error => (.error error.reason, progress)

/-- What a tool gets that reads its whole input. -/
def readInput (progress : Progress) : Except String (List UInt8) × Progress :=
  (progress.input, { progress with input := progress.input.map fun _ => [] })

end Call

namespace Progress

/-- Adds bytes to the output, which are held back. -/
def write (progress : Progress) (bytes : List UInt8) : Progress :=
  { progress with output := progress.output ++ bytes, held := progress.held ++ bytes }

def flush (progress : Progress) : Progress :=
  { progress with joined := progress.joined ++ progress.held, held := [] }

/-- Adds a line to the messages. What was held back goes ahead of it. -/
def warn (progress : Progress) (line : String) : Progress :=
  { progress with
    errors := progress.errors ++ [line]
    joined := progress.joined ++ progress.held ++ Text.toBytes line
    held := [] }

def fail (progress : Progress) (line : String) : Progress :=
  { progress.warn line with failed := true }

end Progress

end WidgetPipeline.Toolbox
