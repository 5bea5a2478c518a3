import WidgetPipeline.Toolbox.Charset

/-!
How tools write a text that they were given into a message. `quoted` puts it between quotes always;
`shellQuoted` leaves a text alone that a shell would read as one word, and else writes it the way it
could be typed there. Characters that are not printed are written as escapes.
-/

namespace WidgetPipeline.Toolbox

def controlLetter? (c : Char) : Option Char :=
  match c.toNat with
  | 7 => some 'a'
  | 8 => some 'b'
  | 9 => some 't'
  | 10 => some 'n'
  | 11 => some 'v'
  | 12 => some 'f'
  | 13 => some 'r'
  | _ => none

def octalDigits (n : Nat) : List Char :=
  [n / 64 % 8, n / 8 % 8, n % 8].map fun digit => Char.ofNat ('0'.toNat + digit)

/-- The escape for a character that is not printed as it is. -/
def escapeOf (c : Char) : List Char :=
  match controlLetter? c with
  | some letter => ['\\', letter]
  | none => '\\' :: octalDigits c.toNat

def quoted (charset : Charset) (text : String) : String :=
  let (opening, closing) : Char × Char :=
    match charset with
    | .ascii => ('\'', '\'')
    | .unicode => ('\u2018', '\u2019')
  let written (c : Char) : List Char := (Text.narrow (String.singleton c)).toList
  let body := (charset.glyphs text.toList).flatMap fun glyph =>
    match glyph.printed with
    | some c => (if c = closing || c = '\\' then ['\\'] else []) ++ glyph.bytes
    | none => glyph.bytes.flatMap escapeOf
  String.ofList (written opening ++ body ++ written closing)

/-- Characters that a shell takes for themselves wherever they stand. -/
def isShellPlain (glyph : Glyph) : Bool :=
  glyph.isForeign ||
    glyph.printed.any fun c => c.isAlphanum || "%+,-./:_]@".toList.contains c

/-- Whether a character is one of some of ASCII. -/
def isOneOf (glyph : Glyph) (cs : List Char) : Bool := glyph.printed.any cs.contains

/-- Whether a shell reads a text as one word. `colons` tells whether a colon counts as plain. -/
def isShellWord (colons : Bool) (text : List Glyph) : Bool :=
  match text with
  | [] => false
  | first :: rest =>
    let plain (glyph : Glyph) : Bool := isShellPlain glyph && (colons || !isOneOf glyph [':'])
    let brace (glyph : Glyph) : Bool := isOneOf glyph ['\x7b', '\x7d'] && !rest.isEmpty
    let later (glyph : Glyph) : Bool := plain glyph || isOneOf glyph ['#', '~'] || brace glyph
    (plain first || brace first) && rest.all later

/-- Whether a text with single quotes can stand between double quotes as it is. -/
def fitsDoubleQuotes (text : List Glyph) : Bool :=
  let first :=
    match text with
    | glyph :: rest =>
      isOneOf glyph ['#', '~'] || (rest.isEmpty && isOneOf glyph ['\x7b', '\x7d'])
    | [] => false
  let compatible (glyph : Glyph) : Bool := isShellPlain glyph || isOneOf glyph [' ', '\'']
  text.any (isOneOf · ['\'']) &&
    (text.all compatible || (first && (text.drop 1).all compatible))

/-- The body of a text between single quotes, with the closing one. Escapes stand between quotes of
their own kind; `escaping` tells whether those are open. -/
def singleQuotedBody (escaping : Bool) : List Glyph → List Char
  | [] => ['\'']
  | glyph :: text =>
    if isOneOf glyph ['\''] then
      -- the quote itself stands outside of quotes
      "'\\''".toList ++ singleQuotedBody false text
    else if glyph.printed.isSome then
      (if escaping then ['\'', '\''] else []) ++ (glyph.bytes ++ singleQuotedBody false text)
    else
      (if escaping then [] else "'$'".toList) ++
        (glyph.bytes.flatMap escapeOf ++ singleQuotedBody true text)

def shellEnclosed (charset : Charset) (text : String) : String :=
  let glyphs := charset.glyphs text.toList
  if fitsDoubleQuotes glyphs then "\"" ++ text ++ "\""
  else
    -- a text that also holds a quote is gone through twice, and the second time starts as the first
    -- ended
    let escaping := glyphs.any (isOneOf · ['\'']) && (glyphs.getLast?.any (·.printed.isNone))
    String.ofList ('\'' :: singleQuotedBody escaping glyphs)

/-- A text as it could be typed in a shell. `colons` tells whether a colon counts as plain. -/
def shellQuoted (charset : Charset) (text : String) (colons : Bool := true) : String :=
  if isShellWord colons (charset.glyphs text.toList) then text else shellEnclosed charset text

def quotedName (charset : Charset) (name : String) : String := shellQuoted charset name false

end WidgetPipeline.Toolbox
