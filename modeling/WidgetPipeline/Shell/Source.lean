/-!
The text that a shell reads. Texts that stand for aliases are put in front of the rest, and an alias
is in use until its text is left. A text that comes from a stream is fetched in blocks, so that what
is not fetched can be read by others.
-/

namespace WidgetPipeline.Shell

structure AliasText where
  name : String
  rest : List Char
  /-- The last character is a blank, and the word behind the text may be an alias too. -/
  blankEnd : Bool
deriving Repr

structure Source where
  aliases : List AliasText := []
  /-- Aliases whose text was left with the last character. -/
  leaving : List String := []
  rest : List Char := []
  /-- What is not fetched yet. -/
  reserve : List Char := []
  line : Nat := 1
  /-- An alias that ends in a blank was left. -/
  aliasFollows : Bool := false
deriving Repr

namespace Source

/-- The number of characters that are fetched at once. -/
def blockSize : Nat := 8192

def ofText (text : String) : Source := { rest := text.toList }

/-- The characters that are left, without those of aliases. -/
def toList (source : Source) : List Char := source.rest ++ source.reserve

/-- The number of characters that are left, without those of aliases. -/
def length (source : Source) : Nat := source.rest.length + source.reserve.length

def lines (text : List Char) : List (List Char) :=
  text.foldr (fun c lines =>
    match lines with
    | [] => [[c]]
    | line :: rest => if c = '\n' then [c] :: lines else (c :: line) :: rest) []

/-- The lines that are read of a text, once only some characters are left. -/
def linesRead (text : List Char) (left : Nat) : List (List Char) :=
  let count := text.length - left
  let (read, rest) := (text.take count, text.drop count)
  lines (if read.isEmpty || read.getLast? = some '\n' then read
    else read ++ rest.takeWhile (· ≠ '\n') ++ (if rest.contains '\n' then ['\n'] else []))

/-- The next block, where the last one is read. -/
def fetch (source : Source) : Source :=
  if source.rest.isEmpty then
    { source with
      rest := (source.reserve.take blockSize).filter (· ≠ '\x00')
      reserve := source.reserve.drop blockSize }
  else source

def next (source : Source) : Option Char × Source :=
  go { source with leaving := [] } source.aliases
where
  /-- The next character behind some texts of aliases. -/
  go (source : Source) : List AliasText → Option Char × Source
    | { name, rest := c :: rest, blankEnd } :: texts =>
      (some c, { source with aliases := { name, rest, blankEnd } :: texts })
    | { name, rest := [], blankEnd } :: texts =>
      go { source with
        leaving := name :: source.leaving, aliasFollows := source.aliasFollows || blankEnd } texts
    | [] =>
      let source := { source with aliases := [] }.fetch
      match source.rest with
      | c :: rest => (some c, { source with rest })
      | [] => (none, source)

def unread (source : Source) (cs : List Char) : Source :=
  match source.aliases with
  | text :: texts => { source with aliases := { text with rest := cs ++ text.rest } :: texts }
  | [] => { source with rest := cs ++ source.rest }

/-- Puts the text of an alias in front. -/
def push (source : Source) (name value : String) : Source :=
  if value.isEmpty then source
  else
    let cs := value.toList
    let blankEnd := cs.getLast? = some ' ' || cs.getLast? = some '\t'
    { source with aliases := { name, rest := cs, blankEnd } :: source.aliases }

def uses (source : Source) (name : String) : Bool :=
  source.leaving.contains name || source.aliases.any (·.name = name)

def nextLine (source : Source) : Source := { source with line := source.line + 1 }

end Source

end WidgetPipeline.Shell
