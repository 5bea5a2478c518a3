import WidgetPipeline.Yaml.Token.Scalar

/-!
Anchors, aliases, tags and directives. A tag is a handle and the bytes of a suffix, in which a percent
sign introduces a byte. Such bytes have to follow each other as the leading bits of the first say, but
they need not form a character.
-/

namespace WidgetPipeline.Yaml

/-- Reads the name of an anchor or alias whose indicator is taken. Some indicators may follow it
directly. -/
def readAnchorName (place : Place) : Option (List Char × Place) :=
  let name := place.rest.takeWhile isNameChar
  let place := place.skip name.length
  let closed :=
    match place.rest with
    | [] => true
    | c :: _ => isBlank c || isBreak c || "?:,]\x7d%@\x60".toList.contains c
  if name.isEmpty || !closed then none else some (name, place)

/-- Characters of a tag's text. In angle brackets and directives flow indicators may stand too. -/
def isTagChar (verbatim : Bool) (c : Char) : Bool :=
  isNameChar c || ";/?:@&=+$.%!~*'()".toList.contains c ||
    (verbatim && (c = ',' || c = '[' || c = ']'))

def sequenceLength? (byte : Nat) : Option Nat :=
  if byte < 0x80 then some 1
  else if 0xC0 ≤ byte ∧ byte < 0xE0 then some 2
  else if 0xE0 ≤ byte ∧ byte < 0xF0 then some 3
  else if 0xF0 ≤ byte ∧ byte < 0xF8 then some 4
  else none

def readEscapedByte (place : Place) : Option (Nat × Place) :=
  match place.rest with
  | '%' :: a :: b :: _ => do
    let a ← Json.hexValue? a
    let b ← Json.hexValue? b
    return (16 * a + b, place.skip 3)
  | _ => none

def readTrailingBytes : Nat → List UInt8 → Place → Option (List UInt8 × Place)
  | 0, bytes, place => some (bytes, place)
  | count + 1, bytes, place => do
    let (byte, place) ← readEscapedByte place
    if 0x80 ≤ byte ∧ byte < 0xC0 then readTrailingBytes count (bytes ++ [byte.toUInt8]) place
    else none

/-- Reads the bytes of a tag's text. `fuel` bounds the number of characters. -/
def readTagText (verbatim : Bool) : Nat → List UInt8 → Place → Option (List UInt8 × Place)
  | 0, text, place => some (text, place)
  | fuel + 1, text, place =>
    match place.rest with
    | [] => some (text, place)
    | c :: _ =>
      if !isTagChar verbatim c then some (text, place)
      else if c = '%' then do
        let (byte, place) ← readEscapedByte place
        let length ← sequenceLength? byte
        let (bytes, place) ← readTrailingBytes (length - 1) [byte.toUInt8] place
        readTagText verbatim fuel (text ++ bytes) place
      else readTagText verbatim fuel (text ++ [c.toNat.toUInt8]) place.skip

/-- The part of a tag's text that counts: a byte 0 ends it. -/
def countedText (text : List UInt8) : List UInt8 := text.takeWhile (· ≠ 0)

def readTagText1 (verbatim : Bool) (place : Place) : Option (List UInt8 × Place) := do
  let (text, place) ← readTagText verbatim (place.rest.length + 1) [] place
  if text.isEmpty then none else some (countedText text, place)

/-- Reads a tag whose exclamation mark is taken. -/
def readTag (inFlow : Bool) (place : Place) : Option (Token × Place) := do
  let (token, place) ←
    match place.rest with
    | '<' :: _ => do
      let (suffix, place) ← readTagText1 true place.skip
      match place.rest with
      | '>' :: _ => some (Token.tag [] suffix, place.skip)
      | _ => none
    | _ => do
      let name := place.rest.takeWhile isNameChar
      let behind := place.skip name.length
      match behind.rest with
      | '!' :: _ => do
        let (suffix, place) ← readTagText1 false behind.skip
        some (Token.tag ('!' :: (name ++ ['!'])) suffix, place)
      | _ => do
        let (text, place) ←
          readTagText false (behind.rest.length + 1) (name.map (·.toNat.toUInt8)) behind
        let suffix := countedText text
        if suffix.isEmpty then some (Token.tag [] [0x21], place)
        else some (Token.tag ['!'] suffix, place)
  let inSequence := inFlow && place.rest.head? = some ','
  if inSequence || atBlankOrEnd place.rest then some (token, place) else none

/-- Reads a part of a version: at most nine digits. -/
def readVersionPart (place : Place) : Option (Nat × Place) :=
  let digits := place.rest.takeWhile Char.isDigit
  if digits.isEmpty || digits.length > 9 then none
  else some (Text.natOfDigits digits, place.skip digits.length)

def readVersion (place : Place) : Option (Token × Place) := do
  let (major, place) ← readVersionPart (place.skipWhile isBlank)
  match place.rest with
  | '.' :: _ =>
    let (minor, place) ← readVersionPart place.skip
    return (.version major minor, place)
  | _ => none

/-- Reads the handle of a directive: one exclamation mark alone, or two around a name. -/
def readHandle (place : Place) : Option (List Char × Place) :=
  match place.rest with
  | '!' :: rest =>
    let name := rest.takeWhile isNameChar
    let behind := place.skip (name.length + 1)
    match behind.rest with
    | '!' :: _ => some ('!' :: (name ++ ['!']), behind.skip)
    | _ => if name.isEmpty then some (['!'], behind) else none
  | _ => none

def readTagHandle (place : Place) : Option (Token × Place) := do
  let (handle, place) ← readHandle (place.skipWhile isBlank)
  match place.rest with
  | c :: _ =>
    if !isBlank c then none
    else
      let (expansion, place) ← readTagText1 true (place.skipWhile isBlank)
      if atBlankOrEnd place.rest then some (.tagHandle handle expansion, place) else none
  | [] => none

/-- Reads a directive whose percent sign is taken, with the rest of its line. -/
def readDirective (place : Place) : Option (Token × Place) := do
  let name := place.rest.takeWhile isNameChar
  let place := place.skip name.length
  if !atBlankOrEnd place.rest then none
  else
    let (token, place) ←
      if name = "YAML".toList then readVersion place
      else if name = "TAG".toList then readTagHandle place
      else none
    let place := skipComment place
    if atBreakOrEnd place.rest then some (token, place.skipBreak) else none

end WidgetPipeline.Yaml
