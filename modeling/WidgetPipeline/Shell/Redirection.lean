import WidgetPipeline.Shell.Expansion

/-!
Redirections. The words of all redirections of a command are expanded first; then the descriptors are
changed one after the other, and set back behind the command.
-/

namespace WidgetPipeline.Shell

/-- A redirection whose word is expanded. -/
inductive Resolved where
  | file (descriptor : Nat) (mode : OpenMode) (path : String)
  | copy (descriptor : Nat) (source : Option Nat)
  | document (descriptor : Nat) (index : Nat)
deriving Repr

namespace Resolved

def descriptor : Resolved → Nat
  | .file descriptor .. | .copy descriptor _ | .document descriptor _ => descriptor

/-- The redirection in a form that can be expanded once more, and stays what it is. -/
def literal : Resolved → Redirection
  | .file descriptor mode path => .file descriptor mode (path.toList.map .escaped)
  | .copy descriptor source =>
    .copy descriptor (((source.map toString).getD "-").toList.map .escaped)
  | .document descriptor index => .document descriptor index

end Resolved

def openReason (creating : Bool) : FileError → String
  | .notFound | .notDirectory => if creating then "Directory nonexistent" else "No such file"
  | error => error.reason

def failOpen {α : Type} (creating : Bool) (path : String) (error : FileError) : Action α :=
  let verb := if creating then "create" else "open"
  fail s!"cannot {verb} {path}: {openReason creating error}"

/-- The descriptor whose own place in the tree of files is given. -/
def ownDescriptor? (names : List String) : Option Nat :=
  match names with
  | ["proc", "self", "fd", number] => decimalNumber? number
  | _ => none

def reopen (channel : Nat) (mode : OpenMode) : Action (Option Endpoint) := do
  match ((← world).channel channel).endpoint with
  | .file names _ _ =>
    if mode = .write || mode = .replace then
      changeWorld fun world => { world with files := world.files.put names (.file []) }
    return some (.file names 0 (mode = .append))
  | .directory => return if mode = .read then some .directory else none
  | endpoint => return some endpoint

/-- Opens a file. Files that are written are created. -/
def openFile (mode : OpenMode) (path : String) : Action Nat := do
  let creating := mode ≠ .read
  let emptied := mode = .write || mode = .replace
  let failure {α : Type} (error : FileError) : Action α := failOpen creating path error
  let files ← files
  let endpoint : Endpoint ←
    match files.spot path with
    | .error error => failure error
    | .ok { names, node } =>
      match ownDescriptor? names, node with
      | some descriptor, _ =>
        match (← shell).channel? descriptor with
        | none => failure .notFound
        | some channel =>
          match ← reopen channel mode with
          | some endpoint => pure endpoint
          | none => failure .isDirectory
      | none, none =>
        if !creating then failure .notFound
        changeWorld fun world => { world with files := world.files.put names (.file []) }
        pure (.file names 0 (mode = .append))
      | none, some .directory => if creating then failure .isDirectory else pure .directory
      | none, some (.device .terminal) => failure .noDevice
      | none, some (.device device) => pure (.device device)
      | none, some (.program _) =>
        if creating then fail s!"cannot create {path}: Text file busy"
        pure (.file names 0 false)
      | none, some _ =>
        if mode = .write && (← shell).has 'C' then fail s!"cannot create {path}: File exists"
        if emptied then
          changeWorld fun world => { world with files := world.files.put names (.file []) }
        pure (.file names 0 (mode = .append))
  let readable := mode = .read || mode = .readWrite
  let (index, after) := (← world).addChannel { endpoint, readable, writable := creating }
  changeWorld fun _ => after
  return index

/-- A channel from which a text can be read. -/
def openText (text : String) : Action Nat := do
  let (pipe, after) := (← world).addPipe { front := Text.toBytes text }
  let (index, after) := after.addChannel { endpoint := .pipe pipe, writable := false }
  changeWorld fun _ => after
  return index

section

variable (capture : Capture)

def resolve : Redirection → Action Resolved
  | .file descriptor mode name =>
    return .file descriptor mode (← expandText capture { tilde := true } name)
  | .document descriptor index => return .document descriptor index
  | .copy descriptor source => do
    let text ← expandText capture { tilde := true } source
    if text = "-" then return .copy descriptor none
    match text.toList with
    | [c] => if c.isDigit then return .copy descriptor (decimalNumber? text)
    | _ => pure ()
    changeShell fun shell => { shell with line := shell.readLine }
    fail "Syntax error: Bad fd number"

/-- Changes a descriptor. `givenUp` tells that it is closed before it becomes another one, so that even
a message about a bad one finds it closed. -/
def redirect (givenUp : Bool) (redirection : Resolved) : Action Unit := do
  let set (channel : Option Nat) : Action Unit :=
    changeShell (·.withDescriptor redirection.descriptor channel)
  match redirection with
  | .file _ mode path => set (some (← openFile mode path))
  | .copy descriptor source =>
    match source with
    | none => set none
    | some source =>
      if source ≠ descriptor then
        match (← shell).channel? source with
        | some channel => set (some channel)
        | none =>
          if givenUp then set none
          fail s!"{source}: Bad file descriptor"
  | .document _ index =>
    let document := (← world).document index
    let text ←
      if document.expanded then expandText capture { quoted := true } document.text
      else pure (unquoted document.text)
    set (some (← openText text))

/-- Changes descriptors that are to be set back later, so that each is given up at first. Gives whether
that went well. -/
def redirectAll (redirections : List Resolved) : Action Bool := do
  let go : List Nat → Resolved → Action (List Nat) := fun done redirection => do
    redirect capture (!done.contains redirection.descriptor) redirection
    return redirection.descriptor :: done
  match ← attempt (discard (redirections.foldlM go [])) with
  | .ok () => return true
  | .error .failed => return false
  | .error stop => throw stop

/-- Sets the descriptors of some redirections back to what they were. -/
def restoreDescriptors (before : Interpreter) (redirections : List Resolved) : Action Unit :=
  changeShell fun after =>
    let restored := redirections.foldl (fun shell redirection =>
      let descriptor := redirection.descriptor
      shell.withDescriptor descriptor (before.channel? descriptor)) after
    { restored with traceDescriptor := before.traceDescriptor }

/-- Runs an action, and then sets the descriptors of some redirections back. -/
def restoringDescriptors {α : Type} (redirections : List Resolved) (action : Action α) :
    Action α := do
  let before ← shell
  andFinally action (restoreDescriptors before redirections)

/-- Runs an action, and sets the descriptors of some redirections back if it does not come to its end. -/
def keepingDescriptors {α : Type} (redirections : List Resolved) (action : Action α) : Action α := do
  let before ← shell
  match ← attempt action with
  | .ok value =>
    changeShell fun after => { after with traceDescriptor := before.traceDescriptor }
    return value
  | .error stop =>
    restoreDescriptors before redirections
    throw stop

end

end WidgetPipeline.Shell
