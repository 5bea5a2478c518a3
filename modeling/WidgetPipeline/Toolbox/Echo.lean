import WidgetPipeline.Toolbox.Printf

/-!
The tool that prints its arguments on a line, for calls by its own name; the shell has a command of
the same name. It takes escapes for what they stand for only if it is asked to.
-/

namespace WidgetPipeline.Toolbox

open External (Outcome)

namespace Echo

structure Style where
  newline : Bool := true
  escapes : Bool := false

def Style.withLetter (style : Style) : Char → Style
  | 'n' => { style with newline := false }
  | 'e' => { style with escapes := true }
  | _ => { style with escapes := false }

/-- Whether an argument holds option letters and nothing else. -/
def isOption (argument : String) : Bool :=
  match argument.toList with
  | '-' :: letters => !letters.isEmpty && letters.all "neE".toList.contains
  | _ => false

/-- The characters that a text with escapes stands for, and whether an escape stopped the output
behind them. `fuel` bounds the number of characters. -/
def unescape : Nat → List Char → List Char × Bool
  | 0, _ => ([], false)
  | fuel + 1, cs =>
    let goOn (printed rest : List Char) : List Char × Bool :=
      let (more, stopped) := unescape fuel rest
      (printed ++ more, stopped)
    match cs with
    | [] => ([], false)
    | '\\' :: 'c' :: _ => ([], true)
    | '\\' :: c :: rest =>
      if c = '0' then
        let digits := (rest.take 3).takeWhile (isDigitOf 8)
        goOn [Char.ofNat (valueOf 8 digits % 256)] (rest.drop digits.length)
      else if isDigitOf 8 c then
        let digits := ((c :: rest).take 3).takeWhile (isDigitOf 8)
        goOn [Char.ofNat (valueOf 8 digits % 256)] ((c :: rest).drop digits.length)
      else if c = 'x' && (rest.head?.map (isDigitOf 16)).getD false then
        let digits := (rest.take 2).takeWhile (isDigitOf 16)
        goOn [Char.ofNat (valueOf 16 digits)] (rest.drop digits.length)
      else
        match if c = '"' then none else Printf.letterEscape? c with
        | some d => goOn [d] rest
        | none => goOn ['\\', c] rest
    | c :: rest => goOn [c] rest

def manual : Manual where
  tool := "echo"
  forms := ["[SHORT-OPTION]... [STRING]...", "LONG-OPTION"]
  body :=
    ["Echo the STRING(s) to standard output.", "",
      "  -n             do not output the trailing newline",
      "  -e             enable interpretation of backslash escapes",
      "  -E             disable interpretation of backslash escapes (default)"]

def line (arguments : List String) : List Char :=
  let options := arguments.takeWhile isOption
  let style := (options.flatMap (·.toList.drop 1)).foldl Style.withLetter {}
  let text := (" ".intercalate (arguments.drop options.length)).toList
  let (printed, stopped) := if style.escapes then unescape (text.length + 1) text else (text, false)
  if style.newline && !stopped then printed ++ ['\n'] else printed

end Echo

open Echo in
def echo (call : Call) : Outcome :=
  match soleNotice? call.arguments with
  | some notice => call.inform manual notice
  | none => call.finish (call.start.write (Text.toBytes (String.ofList (line call.arguments))))

end WidgetPipeline.Toolbox
