import WidgetPipeline.Toolbox.Help

/-!
The tool that replaces, deletes and squeezes bytes, the shortest command for a converter that
changes its text. The bytes are listed in sets, which are written with ranges, classes, equivalents
and repetitions; a set for the replacements is as long as the set it replaces, if need be by
repeating its last byte.
-/

namespace WidgetPipeline.Toolbox

open External (Outcome)

namespace Tr

/-- The options. The first operand ends them. -/
def table : OptionTable where
  letters := "AcCdst".toList
  long := ["complement", "delete", "squeeze-repeats", "truncate-set1", "help", "version"].map
    (·, .never)
  strict := true

def manual : Manual where
  tool := "tr"
  forms := ["[OPTION]... STRING1 [STRING2]"]
  body :=
    ["Translate, squeeze, and/or delete characters from standard input,",
      "writing to standard output.  STRING1 and STRING2 specify arrays of",
      "characters ARRAY1 and ARRAY2 that control the action.", "",
      "  -c, -C, --complement    use the complement of ARRAY1",
      "  -d, --delete            delete characters in ARRAY1, do not translate",
      "  -s, --squeeze-repeats   replace each sequence of a repeated character",
      "                            that is listed in the last specified ARRAY,",
      "                            with a single occurrence of that character",
      "  -t, --truncate-set1     first truncate ARRAY1 to length of ARRAY2"]

structure Mode where
  complement : Bool := false
  delete : Bool := false
  squeeze : Bool := false
  truncate : Bool := false

def Mode.withOption (mode : Mode) : GivenOption → Mode
  | .letter 'c' | .letter 'C' | .long "complement" _ => { mode with complement := true }
  | .letter 'd' | .long "delete" _ => { mode with delete := true }
  | .letter 's' | .long "squeeze-repeats" _ => { mode with squeeze := true }
  | .letter 't' | .long "truncate-set1" _ => { mode with truncate := true }
  | _ => mode

inductive ByteClass where
  | alnum
  | alpha
  | blank
  | cntrl
  | digit
  | graph
  | lower
  | print
  | punct
  | space
  | upper
  | xdigit
deriving DecidableEq, Repr

namespace ByteClass

def names : List (String × ByteClass) :=
  [("alnum", .alnum), ("alpha", .alpha), ("blank", .blank), ("cntrl", .cntrl), ("digit", .digit),
    ("graph", .graph), ("lower", .lower), ("print", .print), ("punct", .punct), ("space", .space),
    ("upper", .upper), ("xdigit", .xdigit)]

def has (c : Char) : ByteClass → Bool
  | .alnum => c.isAlphanum
  | .alpha => c.isAlpha
  | .blank => c = ' ' || c = '\t'
  | .cntrl => c.toNat < 0x20 || c.toNat = 0x7F
  | .digit => c.isDigit
  | .graph => isPrintable c && c ≠ ' '
  | .lower => c.isLower
  | .print => isPrintable c
  | .punct => isPrintable c && c ≠ ' ' && !c.isAlphanum
  | .space => c = ' ' || (9 ≤ c.toNat && c.toNat ≤ 13)
  | .upper => c.isUpper
  | .xdigit => c.isDigit || ('a' ≤ c && c ≤ 'f') || ('A' ≤ c && c ≤ 'F')

end ByteClass

def allBytes : List Char := (List.range 256).map Char.ofNat

inductive Element where
  | byte (c : Char)
  | range (first last : Char)
  | members (kind : ByteClass)
  | equivalent (c : Char)
  /-- A byte some times, or as often as it takes. -/
  | repeated (c : Char) (count : Option Nat)
deriving DecidableEq, Repr

namespace Element

/-- How many bytes of a repetition are listed. No set that is replaced has as many. -/
def maxRepetition : Nat := 4096

def bytes : Element → List Char
  | .byte c | .equivalent c => [c]
  | .range first last => (List.range (last.toNat + 1 - first.toNat)).map fun i =>
      Char.ofNat (first.toNat + i)
  | .members kind => allBytes.filter (ByteClass.has · kind)
  | .repeated c count => List.replicate (min (count.getD 0) maxRepetition) c

def length : Element → Nat
  | .repeated _ count => count.getD 0
  | element => element.bytes.length

/-- Whether the part is the class of the small or of the capital letters. -/
def isCase : Element → Bool
  | .members .upper | .members .lower => true
  | _ => false

/-- Whether the part is repeated as often as it takes. -/
def isOpen : Element → Bool
  | .repeated _ none => true
  | _ => false

end Element

/-- A character of a set's text, and whether a backslash stood in front of it. -/
structure Mark where
  char : Char
  escaped : Bool := false
deriving DecidableEq, Repr

def escapedByte (c : Char) : Char :=
  match c with
  | 'a' => '\x07'
  | 'b' => '\x08'
  | 'f' => '\x0c'
  | 'n' => '\n'
  | 'r' => '\r'
  | 't' => '\t'
  | 'v' => '\x0b'
  | c => c

def isOctal (c : Char) : Bool := '0' ≤ c && c ≤ '7'

def octalValue (digits : List Char) : Nat :=
  digits.foldl (fun n c => 8 * n + (c.toNat - '0'.toNat)) 0

/-- Takes the backslashes out of a text, with warnings about what may be meant otherwise. -/
def unescape (cs : List Char) : List Mark × List String :=
  match cs with
  | [] => ([], [])
  | ['\\'] =>
    ([{ char := '\\' }], ["warning: an unescaped backslash at end of string is not portable"])
  | '\\' :: c :: rest =>
    if isOctal c then
      let digits := ((c :: rest).take 3).takeWhile isOctal
      let fits := octalValue digits < 256
      let used := if fits then digits else digits.take 2
      let warnings :=
        match digits with
        | [x, y, z] =>
          if fits then []
          else
            [s!"warning: the ambiguous octal escape \\{x}{y}{z} is being\n\tinterpreted as the 2-byte sequence \\0{x}{y}, {z}"]
        | _ => []
      let (marks, more) := unescape (rest.drop (used.length - 1))
      ({ char := Char.ofNat (octalValue used), escaped := true } :: marks, warnings ++ more)
    else
      let (marks, warnings) := unescape rest
      ({ char := escapedByte c, escaped := true } :: marks, warnings)
  | c :: rest =>
    let (marks, warnings) := unescape rest
    ({ char := c } :: marks, warnings)
termination_by cs.length
decreasing_by all_goals (simp only [List.length_drop, List.length_cons]; omega)

/-- Whether a mark is a character that stands for itself in the notation. -/
def Mark.is (mark : Option Mark) (c : Char) : Bool := mark = some { char := c }

/-- A text as it stands in a message about a set. -/
def printable (cs : List Char) : String :=
  String.ofList (cs.flatMap fun c =>
    if c = '\\' then ['\\', '\\'] else if isPrintable c then [c] else escapeOf c)

/-- A byte as it stands in a message about a range. -/
def printableByte (c : Char) : String :=
  if isPrintable c then String.singleton c else String.ofList ('\\' :: octalDigits c.toNat)

/-- The text up to a closing delimiter and a bracket, and the marks behind them. -/
def upToDelimiter? (delimiter : Char) : List Mark → Option (List Char × List Mark)
  | a :: b :: rest =>
    if a = { char := delimiter } && b = { char := ']' } then some ([], rest)
    else
      (upToDelimiter? delimiter (b :: rest)).map fun (text, rest) => (a.char :: text, rest)
  | _ => none

/-- Whether a star, digits and a bracket follow. -/
def atRepetition (marks : List Mark) : Bool :=
  Mark.is marks.head? '*' && Mark.is ((marks.drop 1).dropWhile (·.char.isDigit)).head? ']'

/-- The number of a repetition: octal behind a zero. -/
def repetitionCount? (digits : List Char) : Option Nat :=
  let octal := digits.head? = some '0'
  if !digits.all (if octal then isOctal else Char.isDigit) then none
  else
    let count :=
      if octal then octalValue digits
      else digits.foldl (fun n c => 10 * n + (c.toNat - '0'.toNat)) 0
    if count < Nat.pow 2 64 - 1 then some count else none

/-- Reads a repetition whose opening bracket is taken. -/
def readRepetition (charset : Charset) (marks : List Mark) : Option (Except String (Element × List Mark)) :=
  match marks with
  | c :: star :: rest =>
    if !Mark.is (some star) '*' then none
    else
      let digits := rest.takeWhile fun mark => !mark.escaped && mark.char ≠ ']'
      if !Mark.is (rest.drop digits.length).head? ']' then none
      else
        let rest := rest.drop (digits.length + 1)
        let digits := digits.map (·.char)
        if digits.isEmpty then some (.ok (.repeated c.char none, rest))
        else
          match repetitionCount? digits with
          | some 0 => some (.ok (.repeated c.char none, rest))
          | some count => some (.ok (.repeated c.char (some count), rest))
          | none =>
            some (.error s!"invalid repeat count {quoted charset (printable digits)} in [c*n] construct")
  | _ => none

/-- Reads a class or an equivalent whose opening bracket and delimiter are taken, or none where it is
rather a repetition of the delimiter. -/
def readNamed (charset : Charset) (delimiter : Char) (marks : List Mark) :
    Option (Except String (Element × List Mark)) :=
  match upToDelimiter? delimiter marks with
  | none => none
  | some ([], _) =>
    some (.error (if delimiter = ':' then "missing character class name '[::]'"
      else "missing equivalence class character '[==]'"))
  | some (text, rest) =>
    let found : Option Element :=
      if delimiter = ':' then (ByteClass.names.lookup (String.ofList text)).map .members
      else
        match text with
        | [c] => some (.equivalent c)
        | _ => none
    match found with
    | some element => some (.ok (element, rest))
    | none =>
      if atRepetition marks then none
      else
        some (.error (if delimiter = ':' then
            s!"invalid character class {quoted charset (printable text)}"
          else s!"{printable text}: equivalence class operand must be a single character"))

/-- Reads a part in brackets, or none where the bracket stands for itself. -/
def readBracketed (charset : Charset) (marks : List Mark) : Option (Except String (Element × List Mark)) :=
  match marks with
  | opening :: second :: rest =>
    if !Mark.is (some opening) '[' then none
    else
      let named :=
        if Mark.is (some second) ':' then readNamed charset ':' rest
        else if Mark.is (some second) '=' then readNamed charset '=' rest
        else none
      named <|> readRepetition charset (second :: rest)
  | _ => none

/-- The parts of a set. `fuel` bounds the number of parts. -/
def readElements (charset : Charset) : Nat → List Mark → Except String (List Element)
  | 0, _ => .ok []
  | fuel + 1, marks =>
    match marks with
    | first :: second :: third :: rest =>
      match readBracketed charset marks with
      | some (.error message) => .error message
      | some (.ok (element, rest)) => do return element :: (← readElements charset fuel rest)
      | none =>
        if Mark.is (some second) '-' then
          if third.char < first.char then
            .error (s!"range-endpoints of '{printableByte first.char}-{printableByte third.char}'" ++
              " are in reverse collating sequence order")
          else do return .range first.char third.char :: (← readElements charset fuel rest)
        else do return .byte first.char :: (← readElements charset fuel (second :: third :: rest))
    | marks => .ok (marks.map fun mark => .byte mark.char)

abbrev ByteSet := List Element

namespace ByteSet

def bytes (set : ByteSet) : List Char := set.flatMap Element.bytes

def length (set : ByteSet) : Nat := set.foldl (fun n element => n + element.length) 0

def hasClass (set : ByteSet) : Bool :=
  set.any fun
    | .members _ => true
    | _ => false

/-- The set in which what is repeated as often as it takes makes up a length. -/
def fill (set : ByteSet) (length : Nat) : ByteSet :=
  if set.length ≤ length then
    set.map fun
      | .repeated c none => .repeated c (some (length - set.length))
      | element => element
  else set

end ByteSet

/-- The pairs of a byte with its replacement, one after the other. A class of small or capital
letters stands against the other one as a whole; `none` tells that it stands against something else.
`fuel` bounds the number of parts. -/
def alignCases : Nat → List Element → List Element → Option (List Char × List Char)
  | 0, _, _ => some ([], [])
  | fuel + 1, first, second =>
    match first, second with
    | .members a :: first, .members b :: second =>
      -- only classes of letters stand in the second set
      if (Element.members a).isCase then do
        let (froms, tos) ← alignCases fuel first second
        let from' := (Element.members a).bytes
        let to' := if a = b then from' else from'.map fun c => if a = .lower then c.toUpper else c.toLower
        return (from' ++ froms, to' ++ tos)
      else none
    | _, .members _ :: _ => none
    | element :: first, other :: second => do
      let froms := element.bytes
      let tos := other.bytes
      let common := min froms.length tos.length
      let left (bytes : List Char) (rest : List Element) : List Element :=
        (bytes.drop common).map Element.byte ++ rest
      -- the rest of a class starts no class
      let (moreFroms, moreTos) ← alignCases fuel (left froms first) (left tos second)
      return (froms.take common ++ moreFroms, tos.take common ++ moreTos)
    | _, _ => some ([], [])

/-- The bytes of a set with their replacements, or none where classes of letters do not stand against
each other. Parts without bytes do not count. -/
def replacements? (first second : ByteSet) : Option (List Char × List Char) :=
  alignCases (2 * first.length + second.length + 1) first (second.filter (·.length ≠ 0))

def complementOf (bytes : List Char) : List Char := allBytes.filter (!bytes.contains ·)

structure Treatment where
  /-- The bytes with their replacements; of two for one byte the later counts. -/
  replaced : List (Char × Char) := []
  deleted : List Char := []
  /-- Of the bytes listed here only the first of a run stays. -/
  squeezed : List Char := []

namespace Treatment

def tabulate {α : Type} (f : Char → α) : Array α := (allBytes.map f).toArray

def apply (treatment : Treatment) (bytes : List UInt8) : List UInt8 :=
  let replacements := treatment.replaced.reverse
  let replaced := tabulate fun c => ((replacements.lookup c).getD c).toNat.toUInt8
  let deleted := tabulate treatment.deleted.contains
  let squeezed := tabulate treatment.squeezed.contains
  let kept := bytes.filter fun b => !deleted.getD b.toNat false
  let changed := kept.map fun b => replaced.getD b.toNat b
  let step (state : List UInt8 × Option UInt8) (b : UInt8) : List UInt8 × Option UInt8 :=
    if state.2 = some b && squeezed.getD b.toNat false then state else (b :: state.1, some b)
  (changed.foldl step ([], none)).1.reverse

end Treatment

def fitSecond (mode : Mode) (first second : ByteSet) : Except String ByteSet := do
  let firstLength :=
    if mode.complement then (complementOf first.bytes).length else first.length
  if 1 < (second.filter Element.isOpen).length then
    throw "only one [c*] repeat construct may appear in string2"
  let second := second.fill firstLength
  if second.any fun
      | .equivalent _ => true
      | _ => false then
    throw "[=c=] expressions may not appear in string2 when translating"
  if second.any fun element => !element.isCase && ByteSet.hasClass [element] then
    throw ("when translating, the only character classes that may appear in\n" ++
      "string2 are 'upper' and 'lower'")
  if !mode.complement && second.hasClass && (replacements? first second).isNone then
    throw "misaligned [:upper:] and/or [:lower:] construct"
  -- a class that stands against a class counts as one byte on either side
  let cases := if mode.complement then 0 else (second.filter Element.isCase).length
  let firstLength := firstLength - 25 * cases
  let secondLength := second.length - 25 * cases
  let fitted : ByteSet ←
    if firstLength ≤ secondLength || mode.truncate then pure second
    else
      match second.getLast? with
      | none => throw "when not truncating set1, string2 must be non-empty"
      | some (.members _) =>
        throw ("when translating with string1 longer than string2,\n" ++
          "the latter string must not end with a character class")
      | some last =>
        let c := (last.bytes.getLast?).getD (match last with
          | .repeated c _ => c
          | _ => ' ')
        pure (second ++ [.repeated c (some (firstLength - secondLength))])
  let uniform := ((ByteSet.bytes fitted).eraseDups.length = 1)
  if mode.complement && first.hasClass && !(fitted.length = firstLength && uniform) then
    throw ("when translating with complemented character classes,\n" ++
      "string2 must map all characters in the domain to one")
  return fitted

def treatment (mode : Mode) (first : ByteSet) (second : Option ByteSet) :
    Except String Treatment := do
  if first.any Element.isOpen then
    throw "the [c*] repeat construct may not appear in string1"
  let listed := if mode.complement then complementOf first.bytes else first.bytes
  match second with
  | none => return if mode.squeeze then { squeezed := listed } else { deleted := listed }
  | some second =>
    if mode.delete then
      if 1 < (second.filter Element.isOpen).length then
        throw "only one [c*] repeat construct may appear in string2"
      if second.any Element.isOpen then
        throw "the [c*] construct may appear in string2 only when translating"
      return { deleted := listed, squeezed := second.bytes }
    else
      let second ← fitSecond mode first second
      let pairs :=
        if mode.complement then listed.zip second.bytes
        else
          match replacements? first second with
          | some (froms, tos) => froms.zip tos
          | none => []
      return { replaced := pairs, squeezed := if mode.squeeze then second.bytes else [] }

def operandError (charset : Charset) (mode : Mode) (operands : List String) : Option (List String) :=
  let least := if mode.delete = mode.squeeze then 2 else 1
  let most := if mode.delete && !mode.squeeze then 1 else 2
  match operands with
  | [] => some ["missing operand"]
  | _ =>
    if operands.length < least then
      some ["missing operand after " ++ quoted charset (operands.getLast?.getD ""),
        if mode.squeeze then
          "Two strings must be given when both deleting and squeezing repeats."
        else "Two strings must be given when translating."]
    else
      match operands.drop most with
      | [] => none
      | extra :: _ =>
        some (s!"extra operand {quoted charset extra}" ::
          if operands.length = 2 then
            ["Only one string may be given when deleting without squeezing repeats."]
          else [])

end Tr

open Tr in
/-- Replaces, deletes and squeezes bytes. -/
def tr (call : Call) : Outcome :=
  let arguments := table.read call.arguments
  match arguments.notice?, arguments.error with
  | some notice, _ => call.inform manual notice
  | none, some error => call.misused [call.line error.message]
  | none, none =>
    let mode := arguments.options.foldl Mode.withOption {}
    match operandError call.charset mode arguments.operands with
    | some (first :: more) => call.misused (call.line first :: more.map (· ++ "\n"))
    | some [] => call.misused []
    | none =>
      let texts := arguments.operands.map fun operand => unescape operand.toList
      -- the second set is not looked at if the first is wrong
      let step (state : List String × Except String (List ByteSet))
          (text : List Mark × List String) : List String × Except String (List ByteSet) :=
        match state.2 with
        | .error _ => state
        | .ok sets =>
          (state.1 ++ text.2.map call.line,
            (readElements call.charset (text.1.length + 1) text.1).map fun set => sets ++ [set])
      let (warnings, sets) := texts.foldl step ([], .ok [])
      let made : Except String Treatment := do
        match ← sets with
        | first :: rest => treatment mode first rest.head?
        | [] => return {}
      match made with
      | .error message => call.failWith (warnings ++ [call.line message])
      | .ok treatment =>
        let progress := warnings.foldl Progress.warn call.start
        match Call.readInput progress with
        | (.ok bytes, progress) => call.finish (progress.write (treatment.apply bytes))
        | (.error reason, progress) =>
          call.finish (progress.fail (call.line s!"read error: {reason}"))

end WidgetPipeline.Toolbox
