import WidgetPipeline.FileTree.Standard
import WidgetPipeline.Shell.Run
import WidgetPipeline.Toolbox.Cat
import WidgetPipeline.Toolbox.Echo
import WidgetPipeline.Toolbox.Tr
import WidgetPipeline.Toolbox.Wc

/-!
A host with a few tools of its own, and a shell. A tool is found by its bare name, or by a path that
leads to it; a file of the run is no program.

The pipeline takes any host, and what is proved of converters holds for every host. This one is for
runs that name a transpiler or a formatter which everybody has, as `--transpiler cat`, `--formatter
"tr a b"` or a script given to `sh`: with it such a run can be computed to its end. The modules
under `Toolbox` and `Shell` and the standard files are there for these runs alone; a run without
external programs calls nothing in them.
-/

namespace WidgetPipeline.Toolbox

open External (Host Invocation Outcome StartError)

def tools : List (String × (Call → Outcome)) :=
  [("cat", cat), ("echo", echo), ("false", idle "false" 1), ("printf", printf),
    ("tr", tr), ("true", idle "true" 0), ("wc", wc)]

def programs : List (String × Shell.Program) :=
  tools.map (fun entry => (entry.1, .tool entry.2)) ++ [("dash", .shell)]

def programNames : List String := programs.map (·.1)

/-- The files of a system with the tools, and in the directory of the run the given ones. -/
def system (files : List (String × List UInt8)) : FileTree := .standard programNames files

/-- Why a file cannot be started, if it cannot be found. -/
def startError : FileError → StartError
  | .notDirectory => .notDirectory
  | .tooLong => .tooLong
  | .isDirectory | .noDevice => .denied
  | _ => .notFound

/-- The program that a word names. A word with a slash is a path, another one the name of a tool. -/
def findProgram (files : FileTree) (word : String) : Except StartError String :=
  if word.contains '/' then
    match files.find word with
    | .ok (.program name) => .ok name
    | .ok _ => .error .denied
    | .error error => .error (startError error)
  else if FileTree.maxNameLength < word.length then .error .tooLong
  else if word = "." || word = ".." then .error .denied
  else
    match files.find (FileTree.toolDirectory ++ "/" ++ word) with
    | .ok (.program name) => .ok name
    | _ => .error .notFound

/-- Whether the arguments and variables of a call are too long to be passed on. -/
def isTooMuch (invocation : Invocation) : Bool :=
  areTooMuch (invocation.texts.map (·.utf8ByteSize))

def standardVariables : List (String × String) :=
  [("HOME", "/root"), ("LC_ALL", "C"),
    ("PATH", "/usr/local/sbin:/usr/local/bin:/usr/sbin:/usr/bin:/sbin:/bin")]

def runProgram (name : String) (call : Call) : Outcome :=
  match programs.lookup name with
  | some (.tool run) => run call
  | some .shell => Shell.runAsProgram programs call
  | none => call.failWith []

def host (files : FileTree) : Host := fun invocation => do
  let word := Text.narrow invocation.program
  let name ← findProgram files word
  if isTooMuch invocation then throw .tooMuch
  return runProgram name
    { name := word
      arguments := invocation.arguments.map Text.narrow
      environment := standardVariables ++
        invocation.environment.map fun entry => (Text.narrow entry.1, Text.narrow entry.2)
      files
      input := .ok invocation.input }

end WidgetPipeline.Toolbox
