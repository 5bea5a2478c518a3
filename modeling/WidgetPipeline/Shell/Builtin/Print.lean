import WidgetPipeline.Shell.Builtin.Options
import WidgetPipeline.Toolbox.Field

/-!
The commands that print their arguments. Escapes are always taken for what they stand for; the format
of the second command is gone through as often as there are arguments for it.
-/

namespace WidgetPipeline.Shell.Builtin

open Toolbox (FieldStyle FloatFormat Reading)

def letterEscape? : Char → Option Char
  | '\\' => some '\\'
  | 'a' => some '\x07'
  | 'b' => some '\x08'
  | 'e' => some '\x1b'
  | 'f' => some '\x0c'
  | 'n' => some '\n'
  | 'r' => some '\r'
  | 't' => some '\t'
  | 'v' => some '\x0b'
  | _ => none

/-- The character of an escape, and the text behind it. A backslash in front of anything else stands
for itself. -/
def escapeAt (cs : List Char) : Char × List Char :=
  match cs with
  | c :: rest =>
    if Toolbox.isDigitOf 8 c then
      let digits := (cs.take 3).takeWhile (Toolbox.isDigitOf 8)
      (Char.ofNat (Toolbox.valueOf 8 digits % 256), cs.drop digits.length)
    else
      match letterEscape? c with
      | some d => (d, rest)
      | none => ('\\', cs)
  | [] => ('\\', [])

/-- A text with its escapes replaced, and whether one of them stops the output. `fuel` bounds the number
of characters. -/
def unescape : Nat → List Char → List Char × Bool
  | 0, _ => ([], false)
  | fuel + 1, cs =>
    match cs with
    | [] => ([], false)
    | '\\' :: 'c' :: _ => ([], true)
    | '\\' :: rest =>
      let rest :=
        match rest with
        | '0' :: d :: more => if Toolbox.isDigitOf 8 d then d :: more else rest
        | rest => rest
      let (c, rest) := escapeAt rest
      let (more, stopped) := unescape fuel rest
      (c :: more, stopped)
    | c :: rest =>
      let (more, stopped) := unescape fuel rest
      (c :: more, stopped)

def unescaped (text : String) : List Char × Bool := unescape (text.length + 1) text.toList

def echo (arguments : List String) : Action Nat := do
  let (newline, arguments) :=
    match arguments with
    | "-n" :: rest => (false, rest)
    | arguments => (true, arguments)
  print (String.ofList (line newline arguments))
  return 0
where
  line (newline : Bool) : List String → List Char
    | [] => if newline then ['\n'] else []
    | argument :: rest =>
      let (text, stopped) := unescaped argument
      if stopped then text
      else if rest.isEmpty then text ++ (if newline then ['\n'] else [])
      else text ++ ' ' :: line newline rest

namespace Format

/-- What is known while a format is gone through. -/
structure State where
  arguments : List String
  status : Nat := 0
  stopped : Bool := false

def State.take (state : State) : Option String × State :=
  (state.arguments.head?, { state with arguments := state.arguments.tail })

/-- Reports what is wrong with a number, and gives the status. -/
def check {α : Type} (text : String) (reading : Reading α) : Action Nat := do
  if !reading.rest.isEmpty then
    if reading.rest.length = text.length then warn s!"{text}: expected numeric value"
    else warn s!"{text}: not completely converted"
    return 1
  else if reading.outOfRange then
    warn s!"{text}: Numerical result out of range"
    return 1
  else return 0

/-- The next argument as a number: that of the character behind a quote, or what is read. -/
def number {α : Type} (nothing : α) (ofCode : Nat → α) (read : List Char → Reading α)
    (state : State) : Action (α × State) := do
  let (argument, state) := state.take
  match argument with
  | none => return (nothing, state)
  | some text =>
    match text.toList with
    | quote :: rest =>
      if quote = '"' || quote = '\'' then
        return (ofCode ((rest.head?.map Char.toNat).getD 0), state)
      let reading := read text.toList
      let status ← check text reading
      return (reading.value, { state with status := max state.status status })
    | [] => return (nothing, state)

/-- The number between flags and conversion: digits, or an argument. -/
def size (cs : List Char) (state : State) : Action (Int × List Char × State) := do
  match cs with
  | '*' :: rest =>
    let (n, state) ← number (0 : Int) Int.ofNat Toolbox.readSigned state
    return (n.bmod (Nat.pow 2 32), rest, state)
  | cs =>
    let digits := cs.takeWhile Char.isDigit
    return (Toolbox.valueOf 10 digits, cs.drop digits.length, state)

def convert (style : FieldStyle) (shown : List Char) (kind : Char) (state : State) : Action State := do
  let put (field : Unit → List Char) : Action Unit :=
    if style.isTooLarge then fail "xvsnprintf failed" else print (String.ofList (field ()))
  match kind with
  | 'b' =>
    let (argument, state) := state.take
    let (text, stopped) := unescaped (argument.getD "")
    put fun _ => style.text text
    return { state with stopped }
  | 'c' =>
    let (argument, state) := state.take
    put fun _ => style.pad [((argument.getD "").toList.head?).getD '\x00']
    return state
  | 's' =>
    let (argument, state) := state.take
    put fun _ => style.text (argument.getD "").toList
    return state
  | 'd' | 'i' =>
    let (n, state) ← number (0 : Int) Int.ofNat Toolbox.readSigned state
    put fun _ => style.signed n
    return state
  | 'o' | 'u' | 'x' | 'X' =>
    let (n, state) ← number (0 : Nat) id Toolbox.readUnsigned state
    put fun _ => style.unsigned kind n
    return state
  | kind =>
    if "aAeEfFgG".toList.contains kind then
      let ofCode (n : Nat) : Toolbox.FloatNumber := { size := (FloatFormat.double.nearest n 1).1 }
      let (n, state) ← number {} ofCode FloatFormat.double.read state
      put fun _ => style.float .double kind n
      return state
    else fail s!"{String.ofList shown}: invalid directive"

/-- Prints what a conversion behind a percent sign asks for, and gives the text behind it. -/
def directive (cs : List Char) (state : State) : Action (List Char × State) := do
  let flags := cs.takeWhile "#-+ 0".toList.contains
  let (width, behind, state) ← size (cs.drop flags.length) state
  let (places, behind, state) ←
    match behind with
    | '.' :: rest =>
      let (places, behind, state) ← size rest state
      pure (some places, behind, state)
    | behind => pure (none, behind, state)
  match behind with
  | [] => fail "missing format character"
  | kind :: rest =>
    let style := (flags.foldl FieldStyle.withFlag {}).withWidth width
    let style := (places.map style.withPlaces).getD style
    let shown := '%' :: cs.take (cs.length - rest.length)
    return (rest, ← convert style shown kind state)

/-- Goes through a format once. `fuel` bounds the number of parts. -/
def round : Nat → List Char → State → Action State
  | 0, _, state => return state
  | fuel + 1, cs, state => do
    if state.stopped then return state
    match cs with
    | [] => return state
    | '\\' :: rest =>
      let (c, rest) := escapeAt rest
      print (String.singleton c)
      round fuel rest state
    | '%' :: '%' :: rest =>
      print "%"
      round fuel rest state
    | '%' :: rest =>
      let (rest, state) ← directive rest state
      round fuel rest state
    | c :: rest =>
      print (String.singleton c)
      round fuel rest state

/-- Goes through a format as long as it takes arguments. `fuel` bounds the rounds. -/
def rounds (format : List Char) : Nat → State → Action State
  | 0, state => return state
  | fuel + 1, state => do
    let after ← round (format.length + 1) format state
    if after.stopped || after.arguments.isEmpty ||
      after.arguments.length = state.arguments.length then return after
    rounds format fuel after

end Format

def printf (arguments : List String) : Action Nat := do
  match ← operands arguments with
  | [] => fail "usage: printf format [arg ...]"
  | format :: arguments =>
    return (← Format.rounds format.toList (arguments.length + 1) { arguments }).status

end WidgetPipeline.Shell.Builtin
