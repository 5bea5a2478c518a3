import WidgetPipeline.Shell.State
import WidgetPipeline.Toolbox.Numeral

/-!
Variables as a shell sets and forgets them. Some settings follow the values of variables.
-/

namespace WidgetPipeline.Shell

def splitAssignment (text : String) : String × Option String :=
  let name := text.toList.takeWhile (· ≠ '=')
  match text.toList.drop name.length with
  | _ :: value => (String.ofList name, some (String.ofList value))
  | [] => (String.ofList name, none)

def decimalNumber? (text : String) : Option Nat :=
  let cs := text.toList
  if cs.isEmpty || !cs.all Char.isDigit then none
  else
    let n := Toolbox.valueOf 10 cs
    if n < Nat.pow 2 31 then some n else none

/-- A number that is not negative, or an error. White space around it does not matter. -/
def needNumber (text : String) : Action Nat := do
  match Toolbox.readInteger text.toList (some 10) with
  | some (n, rest) =>
    if !(rest.dropWhile Toolbox.isNumeralSpace).isEmpty || n < 0 || (2147483647 : Int) < n then
      fail (badNumber text)
    return n.toNat
  | none => fail (badNumber text)

def followValue (name : String) (value : Option String) : Action Unit := do
  if name = "OPTIND" then
    let index ← match value with
      | some value => needNumber value
      | none => fail (badNumber "")
    changeShell fun shell => { shell with optionIndex := max index 1, optionPlace := none }
  if name = "PATH" then changeShell fun shell => { shell with tracked := ∅ }

/-- Changes a variable. One that is read-only cannot be changed. -/
def changeVariable (name : String) (change : Variable → Variable) : Action Unit := do
  let shell ← shell
  let old := (shell.bindings.get? name).getD {}
  if old.readOnly then fail s!"{name}: is read only"
  let new := change old
  followValue name new.value
  changeShell fun shell => { shell with bindings := shell.bindings.insert name new }

/-- Gives a variable a value. What stands behind an equals sign is no part of its name. -/
def setVariable (name value : String) (exported : Bool := false) : Action Unit := do
  let (name, _) := splitAssignment name
  if !isName name then fail s!"{name}: bad variable name"
  let all := (← shell).has 'a'
  changeVariable name fun variable_ =>
    { variable_ with value := some value, exported := variable_.exported || exported || all }

def unsetVariable (name : String) : Action Unit := do
  let (name, _) := splitAssignment name
  if !isName name then fail s!"{name}: bad variable name"
  let shell ← shell
  match shell.bindings.get? name with
  | some variable_ =>
    if variable_.readOnly then fail s!"{name}: is read only"
    followValue name none
    changeShell fun shell => { shell with bindings := shell.bindings.erase name }
  | none => return

/-- Marks a variable, which need not have a value. -/
def markVariable (name : String) (mark : Variable → Variable) : Action Unit := do
  if !isName name then fail s!"{name}: bad variable name"
  changeShell fun shell =>
    { shell with
      bindings := shell.bindings.insert name (mark ((shell.bindings.get? name).getD {})) }

/-- Notes what is set back at the end of the function or the command that is at work. -/
def remember (entry : LocalEntry) : Action Unit :=
  changeShell fun shell =>
    match shell.locals with
    | frame :: frames => { shell with locals := (entry :: frame) :: frames }
    | [] => shell

def makeLocal (text : String) (exported : Bool) : Action Unit := do
  if text = "-" then remember (.options (← shell).options)
  else
    let (name, value) := splitAssignment text
    if !isName name then
      -- a value hides a bad name until the variable is forgotten
      if value.isSome then
        remember (.badName name)
        return
      fail s!"{name}: bad variable name"
    remember (.variable name ((← shell).bindings.get? name))
    match value with
    | some value => setVariable name value exported
    | none =>
      if ((← shell).bindings.get? name).isNone then markVariable name id

def restoreEntry (entry : LocalEntry) : Action Unit := do
  match entry with
  | .options old => changeShell fun shell => { shell with options := old }
  | .badName _ => return
  | .variable name (some old) =>
    if old.value.isSome then followValue name old.value
    changeShell fun shell => { shell with bindings := shell.bindings.insert name old }
  | .variable name none =>
    changeShell fun shell => { shell with bindings := shell.bindings.erase name }

def withLocals {α : Type} (action : Action α) : Action α := do
  changeShell fun shell => { shell with locals := [] :: shell.locals }
  andFinally action do
    let shell ← shell
    match shell.locals with
    | [] => return
    | frame :: frames =>
      changeShell fun shell => { shell with locals := frames }
      frame.forM restoreEntry
      let badName := frame.findSome? fun (entry : LocalEntry) =>
        if let .badName name := entry then some name else none
      if let some name := badName then fail s!"{name}: bad variable name"

def singleQuoted (text : String) : String :=
  String.ofList (go (text.length + 1) text.toList)
where
  /-- The pieces between runs of quotes. `fuel` bounds their number. -/
  go : Nat → List Char → List Char
    | 0, _ => []
    | fuel + 1, cs =>
      let plain := cs.takeWhile (· ≠ '\'')
      let quotes := (cs.drop plain.length).takeWhile (· = '\'')
      let rest := cs.drop (plain.length + quotes.length)
      let first := '\'' :: (plain ++ ['\''])
      let second := if quotes.isEmpty then [] else '"' :: (quotes ++ ['"'])
      first ++ second ++ (if rest.isEmpty then [] else go fuel rest)

end WidgetPipeline.Shell
