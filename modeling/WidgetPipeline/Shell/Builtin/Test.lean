import WidgetPipeline.FileTree.Standard
import WidgetPipeline.Shell.Builtin.Options
import WidgetPipeline.Toolbox.Numeral

/-!
The command that tests texts, numbers and files. Its arguments are an expression of operators and
operands; what an argument is may depend on those behind it.
-/

namespace WidgetPipeline.Shell.Builtin

namespace Test

inductive Kind where
  | unary
  | binary
  | not
  | connective
  | parenthesis
deriving DecidableEq, Repr

def kind? (text : String) : Option Kind :=
  if ["-r", "-w", "-x", "-e", "-f", "-d", "-c", "-b", "-p", "-u", "-g", "-k", "-s", "-t", "-z", "-n",
      "-h", "-O", "-G", "-L", "-S"].contains text then some .unary
  else if ["=", "!=", "<", ">", "-eq", "-ne", "-ge", "-gt", "-le", "-lt", "-nt", "-ot",
      "-ef"].contains text then some .binary
  else if text = "!" then some .not
  else if text = "-a" || text = "-o" then some .connective
  else if text = "(" || text = ")" then some .parenthesis
  else none

inductive Token where
  | ended
  | operand
  | operator (text : String) (kind : Kind)
deriving DecidableEq, Repr

structure Arguments where
  words : Array String

namespace Arguments

/-- Whether an operator for one operand is an operand itself, because none follows or because an
operator for two does. -/
def standsAlone (arguments : Arguments) (place : Nat) : Bool :=
  match arguments.words[place + 1]?, arguments.words[place + 2]? with
  | none, _ => true
  | some _, none => false
  | some next, some _ => kind? next = some .binary

def token (arguments : Arguments) (place : Nat) : Token :=
  match arguments.words[place]? with
  | none => .ended
  | some text =>
    match kind? text with
    | none => .operand
    | some .unary =>
      if arguments.standsAlone place then .operand else .operator text .unary
    | some kind =>
      if text = "(" && arguments.words.size ≤ place + 1 then .operand else .operator text kind

def text (arguments : Arguments) (place : Nat) : String := (arguments.words[place]?).getD ""

end Arguments

def misused {α : Type} (operator message : String) : Action α :=
  fail (if operator.isEmpty then message else s!"{operator}: {message}")

def number (text : String) : Action Int := do
  match Toolbox.readInteger text.toList (some 10) with
  | some (n, rest) =>
    let limit : Int := Nat.pow 2 63
    if !(rest.dropWhile Toolbox.isNumeralSpace).isEmpty || n < -limit || limit ≤ n then
      fail (badNumber text)
    return n
  | none => fail (badNumber text)

def fileHas (operator path : String) : Action Bool := do
  let shell ← shell
  let files ← files
  if operator = "-h" || operator = "-L" then
    let names := FileTree.names path
    let parent := String.ofList (path.toList.take (path.length - (names.getLast?.getD "").length))
    match files.spot (if parent.isEmpty then "." else parent) with
    | .ok spot =>
      match files.node? (spot.names ++ [names.getLast?.getD ""]) with
      | some (.link _) => return true
      | _ => return false
    | .error _ => return false
  match files.spot path with
  | .error _ | .ok { node := none, .. } => return false
  | .ok { names := place, node := some node } =>
    let node : FileNode ←
      match node with
      | .device (.stream n) =>
        match shell.channel? n with
        | none => return false
        | some channel =>
          match ((← world).channel channel).endpoint with
          | .pipe _ => return ["-r", "-w", "-e", "-p", "-O", "-G"].contains operator
          | .file names _ _ => pure (.file ((← world).fileBytes names))
          | .device device => pure (.device device)
          | .directory => pure .directory
      | node => pure node
    let always := ["-r", "-w", "-e", "-O", "-G"].contains operator
    match node, operator with
    | .directory, "-d" | .directory, "-x" => return true
    | .directory, "-s" => return !FileTree.isSizeless place
    | .directory, "-k" => return FileTree.stickyDirectories.contains (FileTree.pathOf place)
    | .directory, "-g" => return FileTree.groupDirectories.contains (FileTree.pathOf place)
    | .directory, "-G" => return !FileTree.groupDirectories.contains (FileTree.pathOf place)
    | .file _, "-f" | .program _, "-f" | .program _, "-x" | .program _, "-s" => return true
    | .file bytes, "-s" => return !bytes.isEmpty
    | .device _, "-c" => return true
    | _, _ => return always

def unary (operator operand : String) : Action Bool := do
  match operator with
  | "-z" => return operand.isEmpty
  | "-n" => return !operand.isEmpty
  | "-t" =>
    discard (number operand)
    return false
  | operator => fileHas operator operand

/-- Whether a file was made by what runs now, if there is one. -/
def isFresh? (path : String) : Action (Option Bool) := do
  match (← files).spot path with
  | .error _ | .ok { node := none, .. } => return none
  | .ok { names, node := some node } =>
    return some (names.head? = FileTree.runDirectory.head? || node matches .device (.stream _))

/-- Whether a file is newer than another one. Files that are made at once are of one age. -/
def isNewer (a b : String) : Action Bool := do
  match ← isFresh? a, ← isFresh? b with
  | some first, some second => return first && !second
  | _, _ => return false

def binary (a operator b : String) : Action Bool := do
  let numbers (p : Int → Int → Bool) : Action Bool := do
    let m ← number a
    let n ← number b
    return p m n
  match operator with
  | "=" => return a = b
  | "!=" => return a ≠ b
  | "<" => return a < b
  | ">" => return b < a
  | "-eq" => numbers fun m n => m = n
  | "-ne" => numbers fun m n => m ≠ n
  | "-ge" => numbers fun m n => m ≥ n
  | "-gt" => numbers fun m n => m > n
  | "-le" => numbers fun m n => m ≤ n
  | "-lt" => numbers fun m n => m < n
  | "-ef" =>
    let files ← files
    match files.spot a, files.spot b with
    | .ok first, .ok second => return first.names = second.names && first.node.isSome
    | _, _ => return false
  | "-nt" => isNewer a b
  | "-ot" => isNewer b a
  | _ => return false

/-- A value, and the place of the last argument that belongs to it. -/
abbrev Value := Action (Bool × Nat)

section

variable (arguments : Arguments)

/-- The value of a primary expression. `whole` gives that of an expression in parentheses. -/
def primary (whole : Token → Nat → Value) (token : Token) (place : Nat) : Value := do
  match token with
  | .ended => return (false, place)
  | .operator "(" _ =>
    let next := arguments.token (place + 1)
    if next = .operator ")" .parenthesis then return (false, place + 1)
    let (value, place) ← whole next (place + 1)
    if arguments.token (place + 1) ≠ .operator ")" .parenthesis then
      misused "" "closing paren expected"
    return (value, place + 1)
  | token =>
    match token with
    | .operator text .unary =>
      match arguments.words[place + 1]? with
      | none => misused text "argument expected"
      | some operand => return (← unary text operand, place + 1)
    | _ =>
      match arguments.token (place + 1) with
      | .operator text .binary =>
        match arguments.words[place + 2]? with
        | none => misused text "argument expected"
        | some operand => return (← binary (arguments.text place) text operand, place + 2)
      | _ => return (!(arguments.text place).isEmpty, place)

/-- The value of an expression with negations. `fuel` bounds their number. -/
def negation (whole : Token → Nat → Value) : Nat → Token → Nat → Value
  | 0, _, place => return (false, place)
  | fuel + 1, token, place => do
    if token ≠ .operator "!" .not then primary arguments whole token place
    else
      let next := arguments.token (place + 1)
      let (value, place) ←
        negation whole fuel next (if next = .ended then place else place + 1)
      return (!value, place)

/-- The value of expressions that all have to hold. `fuel` bounds their number. -/
def conjunction (whole : Token → Nat → Value) : Nat → Token → Nat → Value
  | 0, _, place => return (false, place)
  | fuel + 1, token, place => do
    let (value, place) ← negation arguments whole (arguments.words.size + 2) token place
    if arguments.token (place + 1) ≠ .operator "-a" .connective then return (value, place)
    let (more, place) ← conjunction whole fuel (arguments.token (place + 2)) (place + 2)
    return (value && more, place)

/-- The value of expressions one of which has to hold. `fuel` bounds their number. -/
def disjunction (whole : Token → Nat → Value) : Nat → Token → Nat → Value
  | 0, _, place => return (false, place)
  | fuel + 1, token, place => do
    let (value, place) ← conjunction arguments whole (arguments.words.size + 2) token place
    if arguments.token (place + 1) ≠ .operator "-o" .connective then return (value, place)
    let (more, place) ← disjunction whole fuel (arguments.token (place + 2)) (place + 2)
    return (value || more, place)

/-- The value of an expression. `fuel` bounds the depth. -/
def expression : Nat → Token → Nat → Value
  | 0, _, place => return (false, place)
  | fuel + 1, token, place =>
    disjunction arguments (expression fuel) (arguments.words.size + 2) token place

end

/-- The value of an expression that all words belong to. -/
def run (words : List String) (asOperand : Bool) : Action Bool := do
  let arguments : Arguments := { words := words.toArray }
  let token := if asOperand then .operand else arguments.token 0
  let (value, place) ← expression arguments (words.length + 2) token 0
  match words.drop place with
  | text :: _ :: _ => misused text "unexpected operator"
  | _ => return value

/-- The value of arguments. Up to four of them are told apart by their number first; negations in front
of these count as one. `fuel` bounds their number. -/
def evaluate : Nat → Bool → List String → Action Bool
  | 0, negated, _ => return negated
  | fuel + 1, negated, words => do
    let signed (value : Action Bool) : Action Bool := return (← value) != negated
    let grouped : Action Bool :=
      if words.head? = some "(" && words.getLast? = some ")" then
        signed (run (words.drop 1).dropLast false)
      else if words.head? = some "!" then evaluate fuel true (words.drop 1)
      else signed (run words false)
    match words with
    | [] => return negated
    | [_, operator, _] => if kind? operator = some .binary then signed (run words true) else grouped
    | [_, _, _, _] => grouped
    | words => signed (run words false)

end Test

/-- Tests its arguments. The second form of the command ends in a bracket. -/
def test (bracket : Bool) (arguments : List String) : Action Nat := do
  let arguments ←
    if !bracket then pure arguments
    else if ((arguments.getLast?).getD "").startsWith "]" then pure arguments.dropLast
    else fail "missing ]"
  return if ← Test.evaluate (arguments.length + 1) false arguments then 0 else 1

end WidgetPipeline.Shell.Builtin
