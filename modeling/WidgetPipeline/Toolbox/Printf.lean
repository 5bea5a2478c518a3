import WidgetPipeline.Toolbox.Field
import WidgetPipeline.Toolbox.Help

/-!
The tool that prints arguments as a format says, for converters that give a fixed text. The format
is gone through as often as there are arguments for it. An argument that is no number is reported
and counts as far as it is one; a conversion that does not exist ends everything.
-/

namespace WidgetPipeline.Toolbox

open External (Outcome)

namespace Printf

/-- What is known between two parts of a format. -/
structure State where
  progress : Progress
  arguments : List String
  ended : Bool := false

def characterCode (charset : Charset) (c : Char) (rest : List Char) : Nat × List Char :=
  match charset, Text.Utf8.pieces (Text.toBytes (String.ofList (c :: rest))) with
  | .unicode, .char d :: _ => (d.toNat, (c :: rest).drop d.utf8Size)
  | _, _ => (c.toNat, rest)

namespace State

def print (state : State) (cs : List Char) : State :=
  { state with progress := state.progress.write (Text.toBytes (String.ofList cs)) }

def die (call : Call) (message : String) (state : State) : State :=
  { state with progress := state.progress.fail (call.line message), ended := true }

/-- The state behind an escape that ends everything well. -/
def cancel (state : State) : State :=
  { state with progress := { state.progress with failed := false }, ended := true }

def take (state : State) : Option String × State :=
  (state.arguments.head?, { state with arguments := state.arguments.tail })

/-- The state behind an argument that was read as a number, with a report of what was wrong. -/
def check {α : Type} (call : Call) (text : String) (reading : Reading α) (state : State) : State :=
  if reading.outOfRange then
    { state with
      progress := state.progress.fail
        (call.line s!"{call.quoted text}: Numerical result out of range") }
  else if reading.rest.isEmpty then state
  else
    let reason :=
      if reading.rest.length = text.length then "expected a numeric value"
      else "value not completely converted"
    { state with progress := state.progress.fail (call.line s!"{call.quoted text}: {reason}") }

/-- The value of an argument as a number: that of the character behind a quote, or what is read. -/
def number {α : Type} (call : Call) (ofCode : Nat → α) (read : List Char → Reading α)
    (text : String) (state : State) : α × State :=
  match text.toList with
  | quote :: c :: rest =>
    if quote = '"' || quote = '\'' then
      let (code, rest) := characterCode call.charset c rest
      let state :=
        if rest.isEmpty then state
        else
          { state with
            progress := state.progress.warn (call.line (s!"warning: {String.ofList rest}: " ++
              "character(s) following character constant have been ignored")) }
      (ofCode code, state)
    else
      let reading := read text.toList
      (reading.value, state.check call text reading)
  | cs =>
    let reading := read cs
    (reading.value, state.check call text reading)

end State

inductive Escape where
  | printed (cs rest : List Char)
  | cancelled
  | wrong (message : String)

def letterEscape? (c : Char) : Option Char :=
  match c with
  | '"' | '\\' => some c
  | 'a' => some '\x07'
  | 'b' => some '\x08'
  | 'e' => some '\x1b'
  | 'f' => some '\x0c'
  | 'n' => some '\n'
  | 'r' => some '\r'
  | 't' => some '\t'
  | 'v' => some '\x0b'
  | _ => none

/-- A number in hexadecimal digits, at least as many as given. -/
def paddedHexadecimal (width n : Nat) : List Char :=
  let digits := Nat.toDigits 16 n
  List.replicate (width - digits.length) '0' ++ digits

/-- Whether an escape may give the number of a character: no control character, no half of a pair, and
of ASCII only the characters that source texts could not always spell. -/
def isCharacterNumber (n : Nat) : Bool :=
  n = 0x24 || n = 0x40 || n = 0x60 || (0x9F < n && !(0xD800 ≤ n && n ≤ 0xDFFF))

/-- The escape of a character by its number. One that bytes cannot form is printed as the escape. -/
def characterEscape (charset : Charset) (letter : Char) (cs : List Char) : Escape :=
  let width := if letter = 'u' then 4 else 8
  let digits := (cs.take width).takeWhile (isDigitOf 16)
  if digits.length < width then .wrong "missing hexadecimal number in escape"
  else
    let n := valueOf 16 digits
    if !isCharacterNumber n then
      .wrong (s!"invalid universal character name \\{letter}" ++
        String.ofList (paddedHexadecimal width n))
    else if n < 0x80 then .printed [Char.ofNat n] (cs.drop width)
    else if charset = .unicode && n < 0x110000 then
      .printed (Text.narrow (String.singleton (Char.ofNat n))).toList (cs.drop width)
    else
      let (letter, width) := if n < 0x10000 then ('u', 4) else ('U', 8)
      .printed ('\\' :: letter :: (paddedHexadecimal width n).map Char.toUpper) (cs.drop digits.length)

/-- The escape behind a backslash. `leadingZero` tells that a zero in front of three octal digits does
not count. -/
def readEscape (charset : Charset) (leadingZero : Bool) (cs : List Char) : Escape :=
  match cs with
  | [] => .printed ['\\'] []
  | c :: rest =>
    if c = 'x' then
      let digits := (rest.take 2).takeWhile (isDigitOf 16)
      if digits.isEmpty then .wrong "missing hexadecimal number in escape"
      else .printed [Char.ofNat (valueOf 16 digits)] (rest.drop digits.length)
    else if isDigitOf 8 c then
      let cs := if leadingZero && c = '0' then rest else cs
      let digits := (cs.take 3).takeWhile (isDigitOf 8)
      .printed [Char.ofNat (valueOf 8 digits % 256)] (cs.drop digits.length)
    else if c = 'c' then .cancelled
    else if c = 'u' || c = 'U' then characterEscape charset c rest
    else
      match letterEscape? c with
      | some d => .printed [d] rest
      | none => .printed ['\\', c] rest

/-- Prints a text with escapes. `fuel` bounds the number of characters. -/
def printEscaped (call : Call) : Nat → List Char → State → State
  | 0, _, state => state
  | fuel + 1, cs, state =>
    match cs with
    | [] => state
    | '\\' :: rest =>
      match readEscape call.charset true rest with
      | .printed printed rest => printEscaped call fuel rest (state.print printed)
      | .cancelled => state.cancel
      | .wrong message => state.die call message
    | c :: rest => printEscaped call fuel rest (state.print [c])

/-- Flags of a conversion, and the conversions that do not take them. -/
def excludedBy : Char → List Char
  | 'I' | '\'' => "aAceEosxX".toList
  | '#' => "cdisu".toList
  | '0' => "cs".toList
  | _ => []

def conversions : List Char := "aAcdeEfFgGiosuxX".toList

/-- The number in front of a part of a conversion: digits, or an argument. -/
def readNumber (call : Call) (what : String) (cs : List Char) (state : State) :
    Int × List Char × State :=
  match cs with
  | '*' :: rest =>
    match state.take with
    | (some text, state) =>
      let (n, state) := state.number call Int.ofNat readSigned text
      let limit : Int := 2147483647
      let low := what = "field width" && n < -limit - 1
      if limit < n || low then (0, rest, state.die call s!"invalid {what}: {call.quoted text}")
      else (n, rest, state)
    | (none, state) => (0, rest, state)
  | cs =>
    let digits := cs.takeWhile Char.isDigit
    (Int.ofNat (valueOf 10 digits), cs.drop digits.length, state)

/-- The state behind a printed field, unless it would be too large. -/
def printField (state : State) (style : FieldStyle) (field : Unit → List Char) : State :=
  if style.isTooLarge then { state with progress := { state.progress with spoiled := true } }
  else state.print (field ())

/-- Prints an argument. `foreign` asks for digits other than the usual ones, of which there are none
for fractions. -/
def convert (call : Call) (style : FieldStyle) (foreign : Bool) (kind : Char) (state : State) :
    State :=
  let (text, state) := state.take
  let text := text.getD ""
  match kind with
  | 'c' => printField state style fun _ => style.pad [text.toList.head?.getD '\x00']
  | 's' => printField state style fun _ => style.text text.toList
  | 'd' | 'i' =>
    let (n, state) := state.number call Int.ofNat readSigned text
    printField state style fun _ => style.signed n
  | 'o' | 'u' | 'x' | 'X' =>
    let (n, state) := state.number call id readUnsigned text
    printField state style fun _ => style.unsigned kind n
  | kind =>
    let ofCode (n : Nat) : FloatNumber := { size := (FloatFormat.extended.nearest n 1).1 }
    let (number, state) := state.number call ofCode FloatFormat.extended.read text
    printField state style fun _ =>
      let field := style.float .extended kind number
      if foreign then field.filter (!·.isDigit) else field

/-- Prints what a conversion behind a percent sign asks for: the state and the text behind it. -/
def directive (call : Call) (cs : List Char) (state : State) : List Char × State :=
  match cs with
  | '%' :: rest => (rest, state.print ['%'])
  | 'b' :: rest =>
    match state.take with
    | (some text, state) => (rest, printEscaped call (text.length + 1) text.toList state)
    | (none, state) => (rest, state)
  | 'q' :: rest =>
    match state.take with
    | (some text, state) => (rest, state.print (shellQuoted call.charset text).toList)
    | (none, state) => (rest, state)
  | cs =>
    let flags := cs.takeWhile "I'-+ #0".toList.contains
    let behind := cs.drop flags.length
    let (width, behind, state) := readNumber call "field width" behind state
    let (places, behind, state) : Option Int × List Char × State :=
      match behind with
      | '.' :: rest =>
        if state.ended then (none, rest, state)
        else
          let (places, behind, state) := readNumber call "precision" rest state
          (some places, behind, state)
      | behind => (none, behind, state)
    if state.ended then ([], state)
    else
      let excluded := flags.flatMap excludedBy ++ (if places.isSome then ['c'] else [])
      let behind := behind.dropWhile "lLhjtz".toList.contains
      let kind := behind.head?
      if kind.any fun kind => conversions.contains kind && !excluded.contains kind then
        let style := ((flags.foldl FieldStyle.withFlag {}).withWidth width)
        let style := (places.map style.withPlaces).getD style
        (behind.drop 1, convert call style (flags.contains 'I') (kind.getD 's') state)
      else
        let shown := cs.take (cs.length - behind.length + 1)
        ([], state.die call s!"%{String.ofList shown}: invalid conversion specification")

/-- Goes through a format once. `fuel` bounds the number of parts. -/
def round (call : Call) : Nat → List Char → State → State
  | 0, _, state => state
  | fuel + 1, cs, state =>
    if state.ended then state
    else
      match cs with
      | [] => state
      | '%' :: rest =>
        let (rest, state) := directive call rest state
        round call fuel rest state
      | '\\' :: rest =>
        match readEscape call.charset false rest with
        | .printed printed rest => round call fuel rest (state.print printed)
        | .cancelled => state.cancel
        | .wrong message => state.die call message
      | c :: rest => round call fuel rest (state.print [c])

/-- Goes through a format as long as it takes arguments. `fuel` bounds the rounds. -/
def rounds (call : Call) (format : List Char) : Nat → State → State
  | 0, state => state
  | fuel + 1, state =>
    let after := round call (format.length + 1) format state
    if after.ended || after.arguments.isEmpty then after
    else if after.arguments.length = state.arguments.length then
      { after with
        progress := after.progress.warn (call.line
          ("warning: ignoring excess arguments, starting with " ++
            call.quoted (after.arguments.head?.getD ""))) }
    else rounds call format fuel after

def manual : Manual where
  tool := "printf"
  forms := ["FORMAT [ARGUMENT]...", "OPTION"]
  body := ["Print ARGUMENT(s) according to FORMAT, or execute according to OPTION:", ""]

end Printf

open Printf in
def printf (call : Call) : Outcome :=
  let arguments := if call.arguments.head? = some "--" then call.arguments.tail else call.arguments
  match soleNotice? call.arguments, arguments with
  | some notice, _ => call.inform manual notice
  | none, [] => call.misused [call.line "missing operand"]
  | none, format :: arguments =>
    let state : State := { progress := call.start, arguments }
    call.finish (rounds call format.toList (arguments.length + 2) state).progress

end WidgetPipeline.Toolbox
