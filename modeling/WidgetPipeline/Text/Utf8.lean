import WidgetPipeline.Text.Pieces

/-!
Text in bytes. A byte string is cut into characters and stretches that are none, each as long as the
bytes could still start a character. `decode` refuses a string with such a stretch and names the
first; `decodeLossy` puts the replacement character in the place of each.
-/

namespace WidgetPipeline.Text.Utf8

/-- How a character of several bytes starts: the number of bytes that follow its first, and the range
of the second. -/
structure Lead where
  tail : Nat
  low : UInt8 := 0x80
  high : UInt8 := 0xBF

/-- What the first byte of a character of several bytes says about it. -/
def lead? (b : UInt8) : Option Lead :=
  if b < 0xC2 then none
  else if b < 0xE0 then some { tail := 1 }
  else if b = 0xE0 then some { tail := 2, low := 0xA0 }
  else if b = 0xED then some { tail := 2, high := 0x9F }
  else if b < 0xF0 then some { tail := 2 }
  else if b = 0xF0 then some { tail := 3, low := 0x90 }
  else if b < 0xF4 then some { tail := 3 }
  else if b = 0xF4 then some { tail := 3, high := 0x8F }
  else none

/-- The bytes that follow the first byte of a character, as far as they can. -/
def trailing (lead : Lead) (bytes : List UInt8) : List UInt8 :=
  match bytes.take lead.tail with
  | [] => []
  | b :: more =>
    if lead.low ≤ b ∧ b ≤ lead.high then b :: more.takeWhile fun b => 0x80 ≤ b && b ≤ 0xBF else []

def charOf (first : UInt8) (rest : List UInt8) : Char :=
  let top := first.toNat % Nat.pow 2 (6 - rest.length)
  Char.ofNat (rest.foldl (fun n b => 0x40 * n + b.toNat % 0x40) top)

inductive Piece where
  | char (c : Char)
  | invalid (length : Nat)
  /-- The start of a character at the end of the string. -/
  | incomplete
deriving DecidableEq, Repr

/-- Cuts a byte string into characters and other stretches. -/
def pieces : List UInt8 → List Piece
  | [] => []
  | b :: rest =>
    if b < 0x80 then .char (Char.ofNat b.toNat) :: pieces rest
    else
      match lead? b with
      | none => .invalid 1 :: pieces rest
      | some lead =>
        let tail := trailing lead rest
        let behind := rest.drop tail.length
        if tail.length = lead.tail then .char (charOf b tail) :: pieces behind
        else if behind.isEmpty then [.incomplete]
        else .invalid (1 + tail.length) :: pieces behind
termination_by bytes => bytes.length
decreasing_by all_goals (simp only [List.length_drop, List.length_cons]; omega)

/-- Why a byte string is no text. -/
structure DecodeError where
  /-- The number of bytes in front of the first that belongs to no character. -/
  index : Nat
  /-- The length of the stretch, unless the string ends within a character. -/
  length : Option Nat
deriving DecidableEq, Repr

def DecodeError.message (error : DecodeError) : String :=
  match error.length with
  | some length => s!"invalid utf-8 sequence of {length} bytes from index {error.index}"
  | none => s!"incomplete utf-8 byte sequence from index {error.index}"

/-- The characters of the pieces, up to the first stretch that is none. -/
def charsOf (index : Nat) : List Piece → Except DecodeError (List Char)
  | [] => .ok []
  | .char c :: rest => (charsOf (index + c.utf8Size) rest).map (c :: ·)
  | .invalid length :: _ => .error { index, length := some length }
  | .incomplete :: _ => .error { index, length := none }

def decode (bytes : List UInt8) : Except DecodeError String :=
  (charsOf 0 (pieces bytes)).map String.ofList

def Piece.toChar : Piece → Char
  | .char c => c
  | _ => '\ufffd'

/-- The text of a byte string, with the replacement character for each stretch that is none. -/
def decodeLossy (bytes : List UInt8) : String := String.ofList ((pieces bytes).map Piece.toChar)

def encode (text : String) : List UInt8 := text.toUTF8.toList

end WidgetPipeline.Text.Utf8
