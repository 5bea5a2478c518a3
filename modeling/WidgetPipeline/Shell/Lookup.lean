import WidgetPipeline.Shell.Variables

/-!
Names of commands. A name stands for a function, for a command of the shell itself or for a program
that is searched for in some directories; a name with a slash is a path. The commands listed here
are those that scripts use to print, test, read and set variables, change directories and send
signals.
-/

namespace WidgetPipeline.Shell

def ordinaryCommands : List String :=
  ["[", "alias", "cd", "command", "echo", "false", "getopts", "kill", "printf", "pwd", "read", "test",
    "true", "type", "umask", "unalias", "wait"]

def isOwnCommand (name : String) : Bool :=
  ordinaryCommands.contains name || specialCommands.contains name

/-- The directories in which programs are searched for if need be. -/
def standardPath : String := "/usr/local/sbin:/usr/local/bin:/usr/sbin:/usr/bin:/sbin:/bin"

inductive Found where
  | function (function : Function)
  | own
  /-- A program at a path, which need not exist. -/
  | program (path : String)
  | missing (reason : String)

def runReason : FileError → String
  | .notFound | .notDirectory => "not found"
  | .isDirectory => "Permission denied"
  | error => error.reason

def searchPath (files : FileTree) (name : String) (reason : String) : List String → Found
  | [] => .missing reason
  | directory :: rest =>
    let path := if directory.isEmpty then name else directory ++ "/" ++ name
    match files.find path with
    | .ok (.program _) => .program path
    | .ok _ => searchPath files name "Permission denied" rest
    | .error .notFound | .error .notDirectory => searchPath files name reason rest
    | .error error => searchPath files name error.reason rest

def findProgram (files : FileTree) (path name : String) : Found :=
  searchPath files name "not found" ((Text.pieces ':' path.toList).map String.ofList)

/-- What a name stands for, where functions count. `path` is the list of directories. -/
def findCommand (shell : Interpreter) (files : FileTree) (functions : Bool) (path name : String) : Found :=
  if name.contains '/' then .program name
  else
    match if functions then shell.functions.get? name else none with
    | some function => .function function
    | none => if isOwnCommand name then .own else findProgram files path name

/-- What the bytes of a name add up to. The first one counts seventeen times. -/
def nameSum (name : String) : Nat :=
  let codes := name.toList.map Char.toNat
  codes.foldl (· + ·) (16 * codes.headD 0)

/-- The place of an alias among the others when they are listed. -/
def aliasPlace (name : String) : Nat := nameSum name % 39

def track (name path : String) : Action Unit :=
  changeShell fun shell => { shell with tracked := shell.tracked.insert name path }

def forgetProgram (name : String) : Action Unit :=
  changeShell fun shell => { shell with tracked := shell.tracked.erase name }

/-- Tells what a name stands for: in full, or as it could be typed. A program is noted as found unless
the directories are not those of the shell. Gives the status. -/
def describe (full : Bool) (directories : Option String) (name : String) : Action Nat := do
  let shell ← shell
  let files ← files
  let out (long short : String) : Action Nat := do
    print (if full then s!"{name}{long}\n" else s!"{short}\n")
    return 0
  let missing : Action Nat := do
    if full then print s!"{name}: not found\n"
    return 127
  if (Keyword.ofText? name).isSome then out " is a shell keyword" name
  else
    match shell.aliases.lookup name with
    | some value =>
      out s!" is an alias for {value}" s!"alias {name}={singleQuoted value}"
    | none =>
      let path := directories.getD ((shell.value? "PATH").getD "")
      match findCommand shell files true path name with
      | .function _ => out " is a shell function" name
      | .own =>
        out (if specialCommands.contains name then " is a special shell builtin"
          else " is a shell builtin") name
      | .program path =>
        if name.contains '/' then
          if (files.find path).toOption.isNone then missing else out s!" is {path}" path
        else if directories.isSome then out s!" is {path}" path
        else
          match shell.tracked.get? name with
          | some path => out s!" is a tracked alias for {path}" path
          | none =>
            track name path
            out s!" is {path}" path
      | .missing _ => missing

end WidgetPipeline.Shell
