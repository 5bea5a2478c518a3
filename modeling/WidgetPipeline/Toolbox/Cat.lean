import WidgetPipeline.Toolbox.Help

/-!
The tool that joins files, which as a converter gives back its input. It can number lines, drop
repeated empty lines, and make ends of lines, tabs and bytes visible that do not print.
-/

namespace WidgetPipeline.Toolbox

open External (Outcome)

structure CatStyle where
  number : Bool := false
  numberFull : Bool := false
  squeeze : Bool := false
  showEnds : Bool := false
  showTabs : Bool := false
  showHidden : Bool := false

namespace CatStyle

def table : OptionTable where
  letters := "benstuvAET".toList
  long := ["number-nonblank", "number", "squeeze-blank", "show-nonprinting", "show-ends",
    "show-tabs", "show-all", "help", "version"].map (·, .never)

def withLetter (style : CatStyle) : Char → CatStyle
  | 'b' => { style with number := true, numberFull := true }
  | 'e' => { style with showEnds := true, showHidden := true }
  | 'n' => { style with number := true }
  | 's' => { style with squeeze := true }
  | 't' => { style with showTabs := true, showHidden := true }
  | 'v' => { style with showHidden := true }
  | 'A' => { style with showEnds := true, showTabs := true, showHidden := true }
  | 'E' => { style with showEnds := true }
  | 'T' => { style with showTabs := true }
  | _ => style

def letterOf : String → Char
  | "number-nonblank" => 'b'
  | "number" => 'n'
  | "squeeze-blank" => 's'
  | "show-nonprinting" => 'v'
  | "show-ends" => 'E'
  | "show-tabs" => 'T'
  | _ => 'A'

def withOption (style : CatStyle) : GivenOption → CatStyle
  | .letter c => style.withLetter c
  | .long name _ => style.withLetter (letterOf name)

def plain (style : CatStyle) : Bool :=
  !style.number && !style.squeeze && !style.showEnds && !style.showTabs && !style.showHidden

/-- How a byte below 128 is made visible. -/
def showLow (b : UInt8) : List UInt8 :=
  if b < 0x20 then [0x5E, b + 0x40] else if b = 0x7F then [0x5E, 0x3F] else [b]

def showByte (style : CatStyle) (b : UInt8) : List UInt8 :=
  if b = 9 then if style.showTabs then [0x5E, 0x49] else [9]
  else if !style.showHidden then [b]
  else if b < 0x80 then showLow b
  else [0x4D, 0x2D] ++ showLow (b - 0x80)

def lineNumber (n : Nat) : List UInt8 :=
  let digits := Text.toBytes (Nat.repr n)
  List.replicate (6 - digits.length) 0x20 ++ digits ++ [9]

/-- How a line is written: the bytes before its end, and whether it has one. -/
def showLine (style : CatStyle) (bytes : List UInt8) (ended : Bool) : List UInt8 :=
  let visibleReturn := ended && style.showEnds && bytes.getLast? = some 0xD
  let body := if visibleReturn then bytes.dropLast else bytes
  body.flatMap style.showByte ++ (if visibleReturn then [0x5E, 0x4D] else []) ++
    if ended then if style.showEnds then [0x24, 0xA] else [0xA] else []

/-- Goes through lines. `number` is that of the last numbered line, `blanks` counts the empty lines
just before. -/
def showLines (style : CatStyle) (number blanks : Nat) : List (List UInt8) → List UInt8
  | [] => []
  | [last] =>
    if last.isEmpty then []
    else (if style.number then lineNumber (number + 1) else []) ++ style.showLine last false
  | line :: lines =>
    let empty := line.isEmpty
    if empty && style.squeeze && 0 < blanks then style.showLines number (blanks + 1) lines
    else
      let numbered := style.number && !(empty && style.numberFull)
      let number := if numbered then number + 1 else number
      (if numbered then lineNumber number else []) ++ style.showLine line true ++
        style.showLines number (if empty then blanks + 1 else 0) lines

end CatStyle

def cutAt (separator : UInt8) : List UInt8 → List (List UInt8)
  | [] => [[]]
  | b :: bytes =>
    if b = separator then [] :: cutAt separator bytes
    else
      match cutAt separator bytes with
      | [] => [[b]]
      | piece :: rest => (b :: piece) :: rest

def isOutputFile (call : Call) (name : String) : Bool :=
  let file :=
    if name = "-" then call.inputFile else (call.files.spot name).toOption.map (·.names)
  file.isSome && file = call.outputFile

namespace CatStyle

def shown (style : CatStyle) (bytes : List UInt8) : List UInt8 :=
  if style.plain then bytes else style.showLines 0 0 (cutAt 0xA bytes)

/-- How bytes are written as long as others may follow: a byte that may belong to the end of a line has
to wait. -/
def shownEarly (style : CatStyle) (bytes : List UInt8) : List UInt8 :=
  style.shown (if style.showEnds && bytes.getLast? = some 0xD then bytes.dropLast else bytes)

end CatStyle

/-- What is known between two files: the progress, and the bytes that were read so far. -/
abbrev Gathered := Progress × List UInt8

/-- Reads the file that an operand names, and passes its lines on. A dash is the input. The file that
the output goes to is not read, as long as there is something in it to read. -/
def gatherOne (call : Call) (style : CatStyle) (gathered : Gathered) (name : String) : Gathered :=
  let (progress, before) := gathered
  let (bytes, after) :=
    if name = "-" then Call.readInput progress else call.read progress name
  match bytes with
  | .ok bytes =>
    if isOutputFile call name && !(bytes.isEmpty && progress.output.isEmpty) then
      (progress.fail (call.line s!"{call.quotedName name}: input file is output file"), before)
    else
      let all := before ++ bytes
      ((after.write ((style.shownEarly all).drop progress.output.length)).flush, all)
  | .error reason => (after.fail (call.line s!"{call.quotedName name}: {reason}"), before)

/-- Whether a part of the output could not be written. Nothing is done behind that. -/
def isLost (call : Call) (progress : Progress) : Bool :=
  call.output ≠ .taken && !progress.output.isEmpty

/-- Reads the files that operands name, as long as the output can be written. -/
def gather (call : Call) (style : CatStyle) (operands : List String) : Gathered :=
  operands.foldl
    (fun gathered name =>
      if isLost call gathered.1 then gathered else gatherOne call style gathered name)
    (call.start, [])

def catManual : Manual where
  tool := "cat"
  forms := ["[OPTION]... [FILE]..."]
  body :=
    ["Concatenate FILE(s) to standard output.", "",
      "With no FILE, or when FILE is -, read standard input.", "",
      "  -A, --show-all           equivalent to -vET",
      "  -b, --number-nonblank    number nonempty output lines, overrides -n",
      "  -e                       equivalent to -vE",
      "  -E, --show-ends          display $ at end of each line",
      "  -n, --number             number all output lines",
      "  -s, --squeeze-blank      suppress repeated empty output lines",
      "  -t                       equivalent to -vT",
      "  -T, --show-tabs          display TAB characters as ^I",
      "  -u                       (ignored)",
      "  -v, --show-nonprinting   use ^ and M- notation, except for LFD and TAB"]

def cat (call : Call) : Outcome :=
  let arguments := CatStyle.table.read call.arguments
  match arguments.notice?, arguments.error with
  | some notice, _ => call.inform catManual notice
  | none, some error => call.misused [call.line error.message]
  | none, none =>
    let style := arguments.options.foldl CatStyle.withOption {}
    if call.output = .closed then
      call.failWith [call.line "standard output: Bad file descriptor"]
    else
      let operands := if arguments.operands.isEmpty then ["-"] else arguments.operands
      let (progress, all) := gather call style operands
      let progress := progress.write ((style.shown all).drop progress.output.length)
      -- an input that is not open is missed once more in the end
      let progress :=
        if operands.contains "-" && !call.inputOpen && !isLost call progress then
          progress.warn (call.line "closing standard input: Bad file descriptor")
        else progress
      call.finish progress

end WidgetPipeline.Toolbox
