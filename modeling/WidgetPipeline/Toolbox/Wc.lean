import WidgetPipeline.Text.Pieces
import WidgetPipeline.Toolbox.Help

/-!
The tool that counts: the lines, words, characters and bytes of files, and the width of the longest
line. Behind a bar in a script it tells how much a converter was given. Words are made of characters
that print; a byte of which no such character is made, and that is not white space, is part of no
word and parts none.
-/

namespace WidgetPipeline.Toolbox

open External (Outcome)

structure Counts where
  lines : Nat := 0
  words : Nat := 0
  characters : Nat := 0
  bytes : Nat := 0
  width : Nat := 0
deriving DecidableEq, Repr

namespace Counts

def add (a b : Counts) : Counts where
  lines := a.lines + b.lines
  words := a.words + b.words
  characters := a.characters + b.characters
  bytes := a.bytes + b.bytes
  width := max a.width b.width

/-- What is known within a line: the counts so far, the column, and whether a word goes on. -/
structure Scan where
  counts : Counts := {}
  column : Nat := 0
  inWord : Bool := false

namespace Scan

def endWord (scan : Scan) : Scan :=
  let words := if scan.inWord then scan.counts.words + 1 else scan.counts.words
  { scan with counts := { scan.counts with words }, inWord := false }

def endLine (scan : Scan) : Scan :=
  { scan with
    counts := { scan.counts with width := max scan.counts.width scan.column }, column := 0 }

def step (scan : Scan) (b : UInt8) : Scan :=
  if b = 0xA then
    let scan := scan.endLine.endWord
    { scan with counts := { scan.counts with lines := scan.counts.lines + 1 } }
  else if b = 0xD || b = 0xC then scan.endLine.endWord
  else if b = 9 then { scan with column := scan.column + 8 - scan.column % 8 }.endWord
  else if b = 0x20 then { scan with column := scan.column + 1 }.endWord
  else if b = 0xB then scan.endWord
  else if 0x20 < b && b < 0x7F then { scan with column := scan.column + 1, inWord := true }
  else scan

def stepForeign (scan : Scan) (c : Char) : Scan :=
  if !Text.isPrinted c then scan
  else
    let scan := { scan with column := scan.column + Text.columns c }
    if Text.wordGapRanges.has c then scan.endWord else { scan with inWord := true }

/-- The scan behind a piece of a text in which several bytes may form a character. -/
def stepPiece (scan : Scan) : Text.Utf8.Piece → Scan
  | .char c =>
    let scan :=
      { scan with counts := { scan.counts with characters := scan.counts.characters + 1 } }
    if c.toNat < 0x80 then scan.step c.toNat.toUInt8 else scan.stepForeign c
  | _ => scan

end Scan

def ofBytes (charset : Charset) (bytes : List UInt8) : Counts :=
  let scan : Scan :=
    match charset with
    | .ascii => bytes.foldl Scan.step { counts := { characters := bytes.length } }
    | .unicode => (Text.Utf8.pieces bytes).foldl Scan.stepPiece {}
  { scan.endLine.endWord.counts with bytes := bytes.length }

end Counts

inductive CountColumn where
  | lines
  | words
  | characters
  | bytes
  | width
deriving DecidableEq, Repr

namespace CountColumn

/-- All columns in the order of the report. -/
def all : List CountColumn := [.lines, .words, .characters, .bytes, .width]

def value (counts : Counts) : CountColumn → Nat
  | .lines => counts.lines
  | .words => counts.words
  | .characters => counts.characters
  | .bytes => counts.bytes
  | .width => counts.width

def ofOption? : GivenOption → Option CountColumn
  | .letter 'l' | .long "lines" _ => some .lines
  | .letter 'w' | .long "words" _ => some .words
  | .letter 'm' | .long "chars" _ => some .characters
  | .letter 'c' | .long "bytes" _ => some .bytes
  | .letter 'L' | .long "max-line-length" _ => some .width
  | _ => none

end CountColumn

namespace Wc

def table : OptionTable where
  letters := "clLmw".toList
  long := [("bytes", .never), ("chars", .never), ("lines", .never), ("words", .never),
    ("debug", .never), ("files0-from", .required), ("max-line-length", .never),
    ("help", .never), ("version", .never)]

def manual : Manual where
  tool := "wc"
  forms := ["[OPTION]... [FILE]...", "[OPTION]... --files0-from=F"]
  body :=
    ["Print newline, word, and byte counts for each FILE, and a total line if",
      "more than one FILE is specified.  A word is a non-zero-length sequence of",
      "printable characters delimited by white space.", "",
      "With no FILE, or when FILE is -, read standard input.", "",
      "The options below may be used to select which counts are printed, always in",
      "the following order: newline, word, character, byte, maximum line length.",
      "  -c, --bytes            print the byte counts",
      "  -m, --chars            print the character counts",
      "  -l, --lines            print the newline counts",
      "      --files0-from=F    read input from the files specified by",
      "                           NUL-terminated names in file F;",
      "                           If F is - then read names from standard input",
      "  -L, --max-line-length  print the maximum display width",
      "  -w, --words            print the word counts"]

/-- A file to count, by the operand that names it. None is the input without a name. -/
abbrev Operand := Option String

/-- The size of a file, if it is a plain one that can be found. -/
def size? (call : Call) (operand : Operand) : Option (Option Nat) :=
  match operand with
  | none | some "-" => if call.inputOpen then some call.inputSize else none
  | some path =>
    match call.files.find path with
    | .ok (.file bytes) => some (some bytes.length)
    | .ok _ => some none
    | .error _ => none

def digitCount (n : Nat) : Nat := (Nat.repr n).length

/-- The width of the columns: enough for the sum of the sizes of plain files, and at least seven if
there is another one. -/
def columnWidth (call : Call) (columns : Nat) (operands : List Operand) : Nat :=
  if operands.length = 1 && columns = 1 then 1
  else
    let sizes := operands.filterMap (size? call)
    let sum := (sizes.filterMap id).foldl (· + ·) 0
    let least := if sizes.any (·.isNone) then 7 else 1
    max least (digitCount sum)

def reportLine (width : Nat) (columns : List CountColumn) (counts : Counts) (name : Option String) :
    List UInt8 :=
  let numbers := columns.map fun column =>
    let digits := Nat.repr (column.value counts)
    String.ofList (List.replicate (width - digits.length) ' ') ++ digits
  let name := (name.map fun name => " " ++ name).getD ""
  Text.toBytes (" ".intercalate numbers ++ name ++ "\n")

/-- What is known between two files: the progress and the sums. -/
abbrev Tally := Progress × Counts

def countOne (call : Call) (report : Counts → Option String → List UInt8) (tally : Tally)
    (operand : Operand) : Tally :=
  let (progress, sums) := tally
  let isInput := operand = none || operand = some "-"
  let (bytes, progress) :=
    match operand with
    | none | some "-" => Call.readInput progress
    | some path => call.read progress path
  match bytes with
  | .ok bytes =>
    let counts := Counts.ofBytes call.charset bytes
    ((progress.write (report counts operand)).flush, sums.add counts)
  | .error reason =>
    let shown := call.quotedName (operand.getD "standard input")
    let failed := progress.fail (call.line s!"{shown}: {reason}")
    -- a file that is there but cannot be read is reported as empty
    if isInput || reason = FileError.isDirectory.reason then
      ((failed.write (report {} operand)).flush, sums)
    else (failed, sums)

structure FileNames where
  operands : List Operand
  /-- The file that lists the names, if they are no operands. -/
  list : Option String := none
  /-- Whether all names are known before the first file is read. -/
  known : Bool := true

namespace FileNames

/-- Why the file with a number, counted from one, cannot be counted whatever it holds. The input that
lists the names cannot be one of the files. -/
def faults (names : FileNames) (charset : Charset) (number : Nat) (operand : Operand) : List String :=
  if names.list = some "-" && operand = some "-" then
    ["when reading file names from stdin, no file name of '-' allowed"]
  else if operand = some "" then
    match names.list with
    | none => ["invalid zero-length file name"]
    | some list => [s!"{quotedName charset list}:{number}: invalid zero-length file name"]
  else []

def useInput (names : FileNames) : Bool :=
  names.list ≠ some "-" && names.operands.any fun operand => operand = none || operand = some "-"

end FileNames

/-- The names in a list, where each ends with the byte 0, which the last one may lack. -/
def listedNames (bytes : List UInt8) : List Operand :=
  let pieces := Text.pieces '\x00' (Text.ofBytes bytes).toList
  let pieces := if pieces.getLast? = some [] then pieces.dropLast else pieces
  pieces.map fun piece => some (String.ofList piece)

/-- The names in the file that lists them, or why it cannot be opened. A file that can be opened and not
read lists nothing. -/
def readList (call : Call) (path : String) : Except String (FileNames × Progress) :=
  let (bytes, progress) :=
    if path = "-" then Call.readInput call.start else call.read call.start path
  match bytes with
  | .ok bytes =>
    let known := ((size? call (some path)).getD none).isSome
    .ok ({ operands := listedNames bytes, list := some path, known }, progress)
  | .error reason =>
    if path = "-" || reason = FileError.isDirectory.reason then
      let progress := progress.fail (call.line s!"{call.quotedName path}: read error: {reason}")
      .ok ({ operands := [], list := some path }, progress)
    else .error s!"cannot open {shellEnclosed call.charset path} for reading: {reason}"

def countAll (call : Call) (columns : List CountColumn) (names : FileNames) (progress : Progress) :
    Outcome :=
  let width := if names.known then columnWidth call columns.length names.operands else 1
  let report := reportLine width columns
  let (progress, sums) := names.operands.zipIdx.foldl
    (fun tally (operand, index) =>
      match names.faults call.charset (index + 1) operand with
      | [] => countOne call report tally operand
      | faults => (faults.foldl (fun progress fault => progress.fail (call.line fault)) tally.1, tally.2))
    (progress, {})
  let progress :=
    if 1 < names.operands.length then progress.write (report sums (some "total")) else progress
  let progress :=
    if names.useInput && !call.inputOpen then progress.fail (call.line "-: Bad file descriptor")
    else progress
  call.finish progress true

end Wc

open Wc in
/-- Counts the lines, words, characters and bytes of files. -/
def wc (call : Call) : Outcome :=
  let arguments := table.read call.arguments
  match arguments.notice?, arguments.error with
  | some notice, _ => call.inform manual notice true
  | none, some error => call.misused [call.line error.message]
  | none, none =>
    let asked := arguments.options.filterMap CountColumn.ofOption?
    let columns :=
      if asked.isEmpty then [.lines, .words, .bytes] else CountColumn.all.filter asked.contains
    let list := (arguments.options.filterMap fun option =>
      match option with
      | .long "files0-from" path => path
      | _ => none).getLast?
    match list, arguments.operands with
    | some _, operand :: _ =>
      call.misused [call.line s!"extra operand {shellEnclosed call.charset operand}",
        "file operands cannot be combined with --files0-from\n"]
    | some path, [] =>
      match readList call path with
      | .ok (names, progress) => countAll call columns names progress
      | .error message => call.failWith [call.line message]
    | none, [] => countAll call columns { operands := [none] } call.start
    | none, operands => countAll call columns { operands := operands.map some } call.start

end WidgetPipeline.Toolbox
