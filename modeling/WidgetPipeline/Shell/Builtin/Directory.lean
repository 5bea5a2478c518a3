import WidgetPipeline.Shell.Builtin.Options
import WidgetPipeline.Shell.Variables

/-!
The commands about the directory from which paths start. It is shown as the path by which it was
reached, or without links.
-/

namespace WidgetPipeline.Shell.Builtin

/-- The names of a path from the root, once those that lead back are resolved in the path itself. -/
def logicalNames (start : List String) (path : String) : List String :=
  (FileTree.names path).foldl (fun names name =>
    if name = "" || name = "." then names else if name = ".." then names.dropLast else names ++ [name])
    (if path.startsWith "/" then [] else start.filter (· ≠ ""))

def shownPath (names : List String) : String :=
  if names.isEmpty then "/" else FileTree.pathOf names

/-- Whether options ask for paths without links. -/
def wantsPhysical (given : List Given) : Bool := (given.getLast?.map (·.1)) = some 'P'

def tryDirectory (physical : Bool) (path : String) : Action Bool := do
  let shell ← shell
  let files ← files
  let logical := logicalNames (FileTree.names shell.shownDirectory) path
  match files.spot (if physical then path else shownPath logical) with
  | .ok { names, node := some .directory } =>
    let shown := shownPath (if physical then names else logical)
    let start := if path.startsWith "/" then path else shell.shownDirectory
    let doubled := !physical && start.startsWith "//" && !start.startsWith "///"
    let shown := if doubled then "/" ++ shown else shown
    changeShell fun shell => { shell with directory := names }
    setVariable "OLDPWD" shell.shownDirectory true
    changeShell fun shell =>
      { shell with
        shownDirectory := shown
        physicalDirectory := if physical then some shown else none }
    setVariable "PWD" shown true
    return true
  | _ => return false

/-- Whether a path is taken as it is, and not searched for. -/
def isDirectPath (path : String) : Bool :=
  path.startsWith "/" || path = "." || path = ".." || path.startsWith "./" || path.startsWith "../"

/-- Changes the directory. No path at all stands for the directory itself, which is searched for too. -/
def changeDirectory (arguments : List String) : Action Nat := do
  let (given, arguments) ← options { bare := ['P', 'L'] } arguments
  let physical := wantsPhysical given
  let shell ← shell
  let value (name : String) : String := (shell.value? name).getD ""
  let (path, shownAfter) :=
    match arguments with
    | "-" :: _ => (value "OLDPWD", true)
    | path :: _ => (path, false)
    | [] => (value "HOME", false)
  let change (target : String) (shown : Bool) : Action Nat := do
    if !(← tryDirectory physical target) then fail s!"can't cd to {path}"
    if shown then print ((← Shell.shell).shownDirectory ++ "\n")
    return 0
  let target := if path.isEmpty then "." else path
  if !isDirectPath path then
    if let some directories := shell.value? "CDPATH" then
      for directory in (Text.pieces ':' directories.toList).map String.ofList do
        let candidate := if directory.isEmpty then target else directory ++ "/" ++ target
        if (← files).find candidate matches .ok .directory then
          return ← change candidate (shownAfter || !directory.isEmpty)
  change target shownAfter

/-- The path of the directory without links. When it is asked for first, the variable for the directory
is set too. -/
def physicalDirectory : Action String := do
  let shell ← shell
  match shell.physicalDirectory with
  | some path => return path
  | none =>
    let path := shownPath shell.directory
    changeShell fun shell => { shell with physicalDirectory := some path }
    setVariable "PWD" shell.shownDirectory true
    return path

def showDirectory (arguments : List String) : Action Nat := do
  let (given, _) ← options { bare := ['P', 'L'] } arguments
  let path ← if wantsPhysical given then physicalDirectory else do pure (← shell).shownDirectory
  print s!"{path}\n"
  return 0

/-- The letters for the rights of one kind of users. -/
def rights (n : Nat) : String :=
  (if n / 4 % 2 = 1 then "r" else "") ++ (if n / 2 % 2 = 1 then "w" else "") ++
    (if n % 2 = 1 then "x" else "")

def maskDigits (n : Nat) : String :=
  String.ofList ([n / 64 % 8, n / 8 % 8, n % 8].map fun digit => Char.ofNat ('0'.toNat + digit))

def usersOf? : Char → Option (List Nat)
  | 'u' => some [2]
  | 'g' => some [1]
  | 'o' => some [0]
  | 'a' => some [0, 1, 2]
  | _ => none

def rightsOf (mode user : Nat) : Nat := mode / Nat.pow 8 user % 8

/-- The bits of a letter for a right, or for the rights that a kind of users had in a mode. -/
def rightBits? (mode : Nat) : Char → Option Nat
  | 'r' => some 4
  | 'w' => some 2
  | 'x' => some 1
  | 's' => some 0
  | 'X' => some (if (List.range 3).any fun user => rightsOf mode user % 2 = 1 then 1 else 0)
  | 'u' => some (rightsOf mode 2)
  | 'g' => some (rightsOf mode 1)
  | 'o' => some (rightsOf mode 0)
  | _ => none

/-- The rights that a clause of a mode gives to users: the signs and letters, applied to what the users
have. `old` is the mode before all clauses, and `fuel` bounds the number of parts. -/
def applyClause (old : Nat) (users : List Nat) : Nat → List Char → Nat → Option Nat
  | 0, _, _ => none
  | fuel + 1, cs, mode =>
    match cs with
    | [] => some mode
    | sign :: rest =>
      if sign ≠ '+' && sign ≠ '-' && sign ≠ '=' then none
      else
        let letters := rest.takeWhile fun c => c ≠ '+' && c ≠ '-' && c ≠ '='
        match letters.mapM (rightBits? old) with
        | none => none
        | some bits =>
          let bits := bits.foldl (· ||| ·) 0
          let change (mode user : Nat) : Nat :=
            let scale := Nat.pow 8 user
            let before := rightsOf mode user
            let new :=
              if sign = '+' then before ||| bits
              else if sign = '-' then before - (before &&& bits)
              else bits
            mode - before * scale + new * scale
          applyClause old users fuel (rest.drop letters.length) (users.foldl change mode)

/-- The mode that clauses make of another one. A last clause without signs changes nothing. -/
def applyMode (text : String) (old : Nat) : Option Nat :=
  let clauses := Text.pieces ',' text.toList
  let last := clauses.getLast?.getD []
  let clauses := if last.all fun c => (usersOf? c).isSome then clauses.dropLast else clauses
  clauses.foldlM (fun mode clause =>
    let who := clause.takeWhile fun c => (usersOf? c).isSome
    let users := if who.isEmpty then [0, 1, 2] else (who.filterMap usersOf?).flatten.eraseDups
    let rest := clause.drop who.length
    if rest.isEmpty then none else applyClause old users (rest.length + 1) rest mode) old

/-- Shows or changes the rights that new files do not get. -/
def umask (arguments : List String) : Action Nat := do
  let (given, arguments) ← options { bare := ['S'] } arguments
  let mask := (← shell).umask
  match arguments with
  | [] =>
    if given.isEmpty then print s!"0{maskDigits mask}\n"
    else
      let mode := 0o777 - mask
      print s!"u={rights (mode / 64 % 8)},g={rights (mode / 8 % 8)},o={rights (mode % 8)}\n"
    return 0
  | text :: _ =>
    let cs := text.toList
    if (cs.head?.map Char.isDigit).getD false then
      if !cs.all (Toolbox.isDigitOf 8) then fail (badNumber text)
      changeShell fun shell => { shell with umask := Toolbox.valueOf 8 cs % 0o1000 }
    else if !cs.isEmpty then
      match applyMode text (0o777 - mask) with
      | some mode => changeShell fun shell => { shell with umask := 0o777 - mode }
      | none => fail s!"Illegal mode: {text}"
    return 0

end WidgetPipeline.Shell.Builtin
