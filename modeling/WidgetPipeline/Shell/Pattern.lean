/-!
Patterns. A star stands for any text, a question mark for any byte, and brackets for a byte of a set; a
backslash makes the next character stand for itself.
-/

namespace WidgetPipeline.Shell.Pattern

/-- The number by which bytes are ordered: the upper half comes first. -/
def order (c : Char) : Int := if c.toNat < 0x80 then c.toNat else (c.toNat : Int) - 0x100

/-- Whether the byte is one with a place on paper. -/
def isGraphic (c : Char) : Bool := 0x21 ≤ c.toNat && c.toNat < 0x7F

def isSpace (c : Char) : Bool := c = ' ' || (9 ≤ c.toNat && c.toNat ≤ 13)

/-- The classes of bytes that a set can name. -/
def classes : List (String × (Char → Bool)) :=
  [(":alnum:]", Char.isAlphanum), (":cntrl:]", fun c => c.toNat < 0x20 || c.toNat = 0x7F),
    (":lower:]", Char.isLower), (":space:]", isSpace), (":alpha:]", Char.isAlpha),
    (":digit:]", Char.isDigit), (":print:]", fun c => isGraphic c || c = ' '),
    (":upper:]", Char.isUpper), (":blank:]", fun c => c = ' ' || c = '\t'),
    (":graph:]", isGraphic), (":punct:]", fun c => isGraphic c && !c.isAlphanum),
    (":xdigit:]", fun c => c.isDigit || "abcdefABCDEF".toList.contains c)]

/-- The class that a text starts with, and the text behind it. -/
def classAt? (cs : List Char) : Option ((Char → Bool) × List Char) :=
  (classes.find? fun entry => entry.1.toList.isPrefixOf cs).map fun entry =>
    (entry.2, cs.drop entry.1.length)

/-- What a set says about a byte from one of its members on: whether the byte is in it, and the
pattern behind it. There is nothing where the set is not closed. -/
def inSet (b : Char) : Nat → List Char → Bool → Option (Bool × List Char)
  | 0, _, _ => none
  | fuel + 1, cs, found =>
    let goOn (rest : List Char) (found : Bool) : Option (Bool × List Char) :=
      match rest with
      | ']' :: rest => some (found, rest)
      | rest => inSet b fuel rest found
    let member (c : Char) (rest : List Char) : Option (Bool × List Char) :=
      match rest with
      | '-' :: ']' :: _ => goOn rest (found || b = c)
      | '-' :: '\\' :: d :: rest => goOn rest (found || (order c ≤ order b && order b ≤ order d))
      | '-' :: d :: rest => goOn rest (found || (order c ≤ order b && order b ≤ order d))
      | rest => goOn rest (found || b = c)
    match cs with
    | [] => none
    | '[' :: rest =>
      match classAt? rest with
      | some (isIn, rest) => goOn rest (found || isIn b)
      | none => member '[' rest
    | '\\' :: c :: rest => member c rest
    | c :: rest => member c rest

/-- What a set, whose opening bracket was read, says about a byte. -/
def inBrackets (b : Char) (cs : List Char) : Option (Bool × List Char) :=
  match cs with
  | '!' :: rest => (inSet b (rest.length + 1) rest false).map fun (found, rest) => (!found, rest)
  | rest => inSet b (rest.length + 1) rest false

/-- The ends of a text, the whole of it first. -/
def ends : List Char → List (List Char)
  | [] => [[]]
  | c :: cs => (c :: cs) :: ends cs

/-- Whether a pattern matches a text. `fuel` bounds the length of the pattern. -/
def matchesWith : Nat → List Char → List Char → Bool
  | 0, _, _ => false
  | fuel + 1, pattern, text =>
    let literal (c : Char) (pattern : List Char) : Bool :=
      match text with
      | d :: text => c = d && matchesWith fuel pattern text
      | [] => false
    match pattern with
    | [] => text.isEmpty
    | '\\' :: c :: pattern => literal c pattern
    | '?' :: pattern =>
      match text with
      | _ :: text => matchesWith fuel pattern text
      | [] => false
    | '*' :: pattern => (ends text).any (matchesWith fuel pattern)
    | '[' :: rest =>
      match text with
      | [] => false
      | b :: text =>
        match inBrackets b rest with
        | some (found, rest) => found && matchesWith fuel rest text
        | none => b = '[' && matchesWith fuel rest text
    | c :: pattern => literal c pattern

end Pattern

/-- Whether a pattern matches a text as a whole. -/
def matchesPattern (pattern text : List Char) : Bool :=
  Pattern.matchesWith (pattern.length + 1) pattern text

/-- What is left of a text once a part at an end that matches a pattern is cut off: the longest one or
the shortest. The character 0 parts several texts; where one ends, so does the part that is matched,
and a search that starts at the front. -/
def trimmed (pattern text : List Char) (front longest : Bool) : List Char :=
  let first (text : List Char) : List Char := text.takeWhile (· ≠ '\x00')
  let cuts :=
    if front == longest then (List.range (text.length + 1)).reverse
    else List.range ((first text).length + 1)
  let fits (n : Nat) : Bool :=
    matchesPattern pattern (first (if front then text.take n else text.drop n))
  match cuts.find? fits with
  | some n => if front then text.drop n else text.take n
  | none => text

end WidgetPipeline.Shell
