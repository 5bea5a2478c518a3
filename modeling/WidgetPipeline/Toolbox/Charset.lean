import WidgetPipeline.Text.Bytes
import WidgetPipeline.Text.Width

/-!
The characters that tools see in bytes. Either every byte is a character, and those of ASCII are the
only ones that are printed; or several bytes form a character together. Variables say which.
-/

namespace WidgetPipeline.Toolbox

inductive Charset where
  | ascii
  | unicode
deriving DecidableEq, Repr

structure Glyph where
  /-- The bytes, as characters with their numbers. -/
  bytes : List Char
  printed : Option Char
deriving DecidableEq, Repr

def isPrintable (c : Char) : Bool := 0x20 ≤ c.toNat && c.toNat < 0x7F

namespace Glyph

def ofByte (c : Char) : Glyph :=
  { bytes := [c], printed := if isPrintable c then some c else none }

/-- Whether the bytes form a printed character beyond ASCII. -/
def isForeign (glyph : Glyph) : Bool := glyph.printed.any fun c => 0x80 ≤ c.toNat

/-- What pieces of bytes are. The bytes are given, too. -/
def ofPieces : List Text.Utf8.Piece → List Char → List Glyph
  | [], _ => []
  | .char c :: pieces, bytes =>
    let size := c.utf8Size
    let glyph : Glyph :=
      { bytes := bytes.take size, printed := if Text.isPrinted c then some c else none }
    glyph :: ofPieces pieces (bytes.drop size)
  | .invalid length :: pieces, bytes =>
    (bytes.take length).map ofByte ++ ofPieces pieces (bytes.drop length)
  | .incomplete :: _, bytes => bytes.map ofByte

end Glyph

namespace Charset

def glyphs (charset : Charset) (text : List Char) : List Glyph :=
  match charset with
  | .ascii => text.map .ofByte
  | .unicode => Glyph.ofPieces (Text.Utf8.pieces (Text.toBytes (String.ofList text))) text

/-- The kinds of conventions, each of which has a variable of its own. The first is about characters. -/
def conventions : List String :=
  ["LC_CTYPE", "LC_NUMERIC", "LC_TIME", "LC_COLLATE", "LC_MONETARY", "LC_MESSAGES", "LC_PAPER",
    "LC_NAME", "LC_ADDRESS", "LC_TELEPHONE", "LC_MEASUREMENT", "LC_IDENTIFICATION"]

def ofName? (name : String) : Option Charset :=
  if name = "C" || name = "POSIX" then some .ascii
  else
    match name.toList with
    | 'C' :: '.' :: code =>
      let code := (code.takeWhile (· ≠ '@')).filter (· ≠ '-')
      if code.map Char.toLower = "utf8".toList then some .unicode else none
    | _ => none

/-- The characters that variables ask for. Unless all conventions exist, none of them counts. -/
def ofEnvironment (environment : List (String × String)) : Charset :=
  let value (name : String) : Option String := (environment.lookup name).filter (· ≠ "")
  let chosen := conventions.map fun convention =>
    ofName? ((value "LC_ALL" <|> value convention <|> value "LANG").getD "C")
  if chosen.all (·.isSome) then (chosen.head?.bind id).getD .ascii else .ascii

end Charset

end WidgetPipeline.Toolbox
