/-!
Sets of characters given by ascending ranges of code points. Membership walks the table and stops
at the first range that starts beyond the character, so characters early in the table are cheap.
-/

namespace WidgetPipeline.Text

/-- Ranges of code points, both ends included, in ascending order. -/
abbrev CodeRanges := List (Nat × Nat)

/-- Whether the code point lies in one of the ranges, which are taken to be ascending. -/
def CodeRanges.covers : CodeRanges → Nat → Bool
  | [], _ => false
  | (first, last) :: ranges, code =>
    if code < first then false else code ≤ last || CodeRanges.covers ranges code

def CodeRanges.has (ranges : CodeRanges) (c : Char) : Bool := ranges.covers c.toNat

end WidgetPipeline.Text
