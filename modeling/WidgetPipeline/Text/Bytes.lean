import WidgetPipeline.Text.Utf8

/-!
Byte strings as text. The programs of a system take their names, arguments and outputs for bytes,
whatever characters these form; a byte string is written as the text of the characters with the
numbers of its bytes.
-/

namespace WidgetPipeline.Text

/-- The text whose characters are the bytes. -/
def ofBytes (bytes : List UInt8) : String := String.ofList (bytes.map fun b => Char.ofNat b.toNat)

def toBytes (text : String) : List UInt8 := text.toList.map fun c => c.toNat.toUInt8

/-- A text in bytes, as text. -/
def narrow (text : String) : String := ofBytes (Utf8.encode text)

end WidgetPipeline.Text
