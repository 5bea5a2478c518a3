import WidgetPipeline.Shell.Pattern
import WidgetPipeline.Shell.Syntax
import WidgetPipeline.Toolbox.Numeral

/-!
Arithmetic expressions. Numbers are signed integers of 64 bits that wrap around. Names stand for the
numbers that their values spell, and assignments give them new ones. The part of an expression that
does not count is read, but changes nothing.
-/

namespace WidgetPipeline.Shell

inductive BinaryOperator where
  | times | over | modulo | plus | minus | shiftLeft | shiftRight | less | lessEqual | greater
  | greaterEqual | equal | unequal | bitAnd | bitXor | bitOr
deriving DecidableEq, Repr

namespace BinaryOperator

/-- The rank of an operator. Those of lower ranks are applied first. -/
def rank : BinaryOperator → Nat
  | .times | .over | .modulo => 0
  | .plus | .minus => 1
  | .shiftLeft | .shiftRight => 2
  | .less | .lessEqual | .greater | .greaterEqual => 3
  | .equal | .unequal => 4
  | .bitAnd => 5
  | .bitXor => 6
  | .bitOr => 7

def ofBool (b : Bool) : Int64 := if b then 1 else 0

/-- The value of an operation. There is no quotient by zero. -/
def result? (operator : BinaryOperator) (a b : Int64) : Option Int64 :=
  match operator with
  | .times => some (a * b)
  | .over => if b = 0 then none else some (a / b)
  | .modulo => if b = 0 then none else some (a % b)
  | .plus => some (a + b)
  | .minus => some (a - b)
  | .shiftLeft => some (a <<< b)
  | .shiftRight => some (a >>> b)
  | .less => some (ofBool (a < b))
  | .lessEqual => some (ofBool (a ≤ b))
  | .greater => some (ofBool (b < a))
  | .greaterEqual => some (ofBool (b ≤ a))
  | .equal => some (ofBool (a = b))
  | .unequal => some (ofBool (a ≠ b))
  | .bitAnd => some (a &&& b)
  | .bitXor => some (a ^^^ b)
  | .bitOr => some (a ||| b)

end BinaryOperator

inductive NumberToken where
  | number (n : Int64)
  | name (name : String)
  | binary (operator : BinaryOperator)
  /-- An assignment, maybe with an operation on the old value. -/
  | assign (operator : Option BinaryOperator)
  | not | bitNot | both | either | question | colon | openParenthesis | closeParenthesis
  | wrong
deriving DecidableEq, Repr

namespace Arithmetic

/-- The operators by their spellings, longer ones first. -/
def operators : List (String × NumberToken) :=
  [("<<=", .assign (some .shiftLeft)), (">>=", .assign (some .shiftRight)),
    ("*=", .assign (some .times)), ("/=", .assign (some .over)), ("%=", .assign (some .modulo)),
    ("+=", .assign (some .plus)), ("-=", .assign (some .minus)), ("&=", .assign (some .bitAnd)),
    ("^=", .assign (some .bitXor)), ("|=", .assign (some .bitOr)),
    ("<<", .binary .shiftLeft), (">>", .binary .shiftRight), ("<=", .binary .lessEqual),
    (">=", .binary .greaterEqual), ("==", .binary .equal), ("!=", .binary .unequal),
    ("&&", .both), ("||", .either),
    ("*", .binary .times), ("/", .binary .over), ("%", .binary .modulo), ("+", .binary .plus),
    ("-", .binary .minus), ("<", .binary .less), (">", .binary .greater), ("&", .binary .bitAnd),
    ("^", .binary .bitXor), ("|", .binary .bitOr), ("=", .assign none), ("!", .not),
    ("~", .bitNot), ("?", .question), (":", .colon), ("(", .openParenthesis),
    (")", .closeParenthesis)]

/-- The tokens of a text. `fuel` bounds the number of characters. -/
def tokens : Nat → List Char → List NumberToken
  | 0, _ => []
  | fuel + 1, cs =>
    match cs with
    | [] => []
    | c :: rest =>
      if c = ' ' || c = '\t' || c = '\n' then tokens fuel rest
      else if c.isDigit then
        let reading := Toolbox.readSigned cs
        .number (Int64.ofInt reading.value) :: tokens fuel reading.rest
      else if isNameStart c then
        let name := cs.takeWhile isNameChar
        .name (String.ofList name) :: tokens fuel (cs.drop name.length)
      else
        match operators.find? fun entry => entry.1.toList.isPrefixOf cs with
        | some (text, token) => token :: tokens fuel (cs.drop text.length)
        | none => [.wrong]

/-- What is known while an expression is evaluated: the tokens that are left and the values that
names got. -/
structure State where
  tokens : List NumberToken
  assigned : List (String × Int64) := []

inductive Error where
  | wrong (reason : String)
  | badValue (value : String)
  /-- The quotient is out of range, which ends everything. -/
  | overflow
deriving DecidableEq, Repr

/-- A computation on an expression. What it assigned before it stopped stays assigned. -/
abbrev Evaluator := ExceptT Error (StateM State)

def fail {α : Type} (reason : String) : Evaluator α := throw (.wrong reason)

def take : Evaluator (Option NumberToken) := do
  let state ← get
  set { state with tokens := state.tokens.tail }
  return state.tokens.head?

def peek : Evaluator (Option NumberToken) := return (← get).tokens.head?

/-- The number that a value spells. An empty value counts as zero. -/
def numberOf (value : String) : Except Error Int64 :=
  let reading := Toolbox.readSigned value.toList
  if reading.outOfRange || !(reading.rest.dropWhile Pattern.isSpace).isEmpty then
    .error (.badValue value)
  else .ok (Int64.ofInt reading.value)

/-- The result of an operation, unless it does not count. -/
def operate (counts : Bool) (operator : BinaryOperator) (a b : Int64) : Evaluator Int64 := do
  if !counts then return b
  if (operator = .over || operator = .modulo) && b = -1 && a = Int64.minValue then
    throw .overflow
  match operator.result? a b with
  | some n => return n
  | none => fail "division by zero"

section

variable (valueOf : String → Option String)

def lookup (name : String) : Evaluator Int64 := do
  match (← get).assigned.lookup name with
  | some n => return n
  | none =>
    match numberOf ((valueOf name).getD "") with
    | .ok n => return n
    | .error error => throw error

inductive Level where
  | assignment
  | condition
  | either
  | both
  /-- Operations of ranks up to one. -/
  | binary (rank : Nat)
  | primary

/-- Goes on with an operation of a rank on a first number. -/
def operations (operand : Evaluator Int64) (counts : Bool) (rank : Nat) : Nat → Int64 → Evaluator Int64
  | 0, a => return a
  | fuel + 1, a => do
    match ← peek with
    | some (.binary operator) =>
      if operator.rank ≠ rank then return a
      discard take
      let b ← operand
      operations operand counts rank fuel (← operate counts operator a b)
    | _ => return a

/-- Evaluates an expression of a kind. `fuel` bounds the depth. -/
def evaluate : Nat → Bool → Level → Evaluator Int64
  | 0, _, _ => fail "expecting primary"
  | fuel + 1, counts, level => do
    let sub := evaluate fuel
    match level with
    | .assignment =>
      match (← get).tokens with
      | .name name :: .assign operator :: tokens =>
        modify fun state => { state with tokens }
        let n ← sub counts .assignment
        if !counts then return n
        let n ←
          match operator with
          | some operator => operate true operator (← lookup valueOf name) n
          | none => pure n
        modify fun state => { state with assigned := (name, n) :: state.assigned }
        return n
      | _ => sub counts .condition
    | .condition =>
      let test ← sub counts .either
      if (← peek) ≠ some .question then return test
      discard take
      let yes ← sub (counts && test ≠ 0) .assignment
      if (← take) ≠ some .colon then fail "expecting ':'"
      let no ← sub (counts && test = 0) .condition
      return if test ≠ 0 then yes else no
    | .either =>
      let a ← sub counts .both
      if (← peek) ≠ some .either then return a
      discard take
      let b ← sub (counts && a = 0) .either
      return BinaryOperator.ofBool (a ≠ 0 || b ≠ 0)
    | .both =>
      let a ← sub counts (.binary 8)
      if (← peek) ≠ some .both then return a
      discard take
      let b ← sub (counts && a ≠ 0) .both
      return BinaryOperator.ofBool (a ≠ 0 && b ≠ 0)
    | .binary 0 => sub counts .primary
    | .binary (rank + 1) =>
      let operand := sub counts (.binary rank)
      operations operand counts rank (← get).tokens.length (← operand)
    | .primary =>
      match ← take with
      | some .openParenthesis =>
        let n ← sub counts .assignment
        if (← take) ≠ some .closeParenthesis then fail "expecting ')'"
        return n
      | some (.number n) => return n
      | some (.name name) => if counts then lookup valueOf name else return 0
      | some (.binary .plus) => sub counts .primary
      | some (.binary .minus) => return -(← sub counts .primary)
      | some .not => return BinaryOperator.ofBool ((← sub counts .primary) = 0)
      | some .bitNot => return ~~~(← sub counts .primary)
      | _ => fail "expecting primary"

def evaluateAll : Evaluator Int64 := do
  let n ← evaluate valueOf (16 * ((← get).tokens.length + 1)) true .assignment
  if !(← get).tokens.isEmpty then fail "expecting EOF"
  return n

/-- The value of an expression, and the values that names got, the last ones first. They count also
where there is no value. -/
def value (text : String) : Except Error Int64 × List (String × Int64) :=
  let (n, state) := (evaluateAll valueOf).run.run { tokens := tokens (text.length + 1) text.toList }
  (n, state.assigned)

end

end Arithmetic

end WidgetPipeline.Shell
