import WidgetPipeline.Text.Alphabetic
import WidgetPipeline.Text.Mark
import WidgetPipeline.Text.Numeric

/-!
Character classes of the Unicode standard, as the scanner and the patterns use them. Two classes
spell words and differ: `isAlphanumeric` has numbers of every kind and no marks, `isWordChar` has
marks, connectors and joiners and of the numbers only digits. The tables are those of version 17; the
words of patterns are those of version 16.
-/

namespace WidgetPipeline.Text

/-- Code points with the property White_Space. -/
def blankRanges : CodeRanges :=
  [(0x9, 0xD), (0x20, 0x20), (0x85, 0x85), (0xA0, 0xA0), (0x1680, 0x1680), (0x2000, 0x200A),
    (0x2028, 0x2029), (0x202F, 0x202F), (0x205F, 0x205F), (0x3000, 0x3000)]

/-- Code points of general category Pc, the low line among them. -/
def connectorRanges : CodeRanges :=
  [(0x5F, 0x5F), (0x203F, 0x2040), (0x2054, 0x2054), (0xFE33, 0xFE34), (0xFE4D, 0xFE4F),
    (0xFF3F, 0xFF3F)]

def joinControlRanges : CodeRanges := [(0x200C, 0x200D)]

/-- Letters, marks and digits that version 17 of the standard added. The patterns follow version 16, in
which they are unassigned. -/
def recentWordRanges : CodeRanges :=
  [
    (0x88F, 0x88F), (0xC5C, 0xC5C), (0xCDC, 0xCDC), (0x1ACF, 0x1ADD), (0x1AE0, 0x1AEB),
    (0xA7CE, 0xA7CF), (0xA7D2, 0xA7D2), (0xA7D4, 0xA7D4), (0xA7F1, 0xA7F1), (0x10940, 0x10959),
    (0x10EC5, 0x10EC7), (0x10EFA, 0x10EFB), (0x11B60, 0x11B67), (0x11DB0, 0x11DDB),
    (0x11DE0, 0x11DE9), (0x16EA0, 0x16EB8), (0x16EBB, 0x16ED3), (0x16FF2, 0x16FF6),
    (0x187F8, 0x187FF), (0x18D09, 0x18D1E), (0x18D80, 0x18DF2), (0x1E6C0, 0x1E6DE),
    (0x1E6E0, 0x1E6F5), (0x1E6FE, 0x1E6FF), (0x2B73A, 0x2B73F), (0x2CEA2, 0x2CEAD),
    (0x323B0, 0x33479)
  ]

/-- White space: blanks, tabs, line breaks and the Unicode spaces, but no zero-width character. -/
def isBlank (c : Char) : Bool := blankRanges.has c

/-- Letters and numbers of every kind. -/
def isAlphanumeric (c : Char) : Bool :=
  alphabeticRanges.has c || decimalDigitRanges.has c || otherNumberRanges.has c

/-- Characters of a word in a pattern: letters, marks, digits, connectors and joiners, as far as the
patterns know them. -/
def isWordChar (c : Char) : Bool :=
  !recentWordRanges.has c &&
    (alphabeticRanges.has c || markRanges.has c || decimalDigitRanges.has c ||
      connectorRanges.has c || joinControlRanges.has c)

end WidgetPipeline.Text
