import WidgetPipeline.Shell.Reader.Basic

/-!
Words. A word is read character by character; what a character means depends on the quotes in which it
stands. Expansions with words of their own and arithmetic open levels, each with its own quotes, until
they are closed. The text of a document is read as one long word.
-/

namespace WidgetPipeline.Shell

inductive Quoting where
  | bare
  | single
  | double
  | arithmetic
deriving DecidableEq, Repr

inductive CharRole where
  | plain
  /-- It would mean something in a pattern. -/
  | escaped
  | newline
  | backslash
  | singleQuote
  | doubleQuote
  | endQuote
  | dollar
  | closeBrace
  | openParenthesis
  | closeParenthesis
  | backquote
  | delimiter
deriving DecidableEq, Repr

namespace Quoting

/-- Bytes that are also used to mark places in words. -/
def isMark (c : Char) : Bool := 0x81 ≤ c.toNat && c.toNat ≤ 0x88

/-- Characters with a meaning in patterns and other places where quotes matter. -/
def isActive (c : Char) : Bool := "!*?[=~:/-]".toList.contains c || isMark c

def delimiters : List Char := "<>();&| \t".toList

def role (quoting : Quoting) (c : Char) : CharRole :=
  if c = '\n' then .newline
  else
    match quoting with
    | .bare =>
      match c with
      | '\\' => .backslash
      | '\'' => .singleQuote
      | '"' => .doubleQuote
      | '\x60' => .backquote
      | '$' => .dollar
      | '\x7d' => .closeBrace
      | c => if delimiters.contains c then .delimiter else .plain
    | .double =>
      match c with
      | '\\' => .backslash
      | '"' => .endQuote
      | '\x60' => .backquote
      | '$' => .dollar
      | '\x7d' => .closeBrace
      | c => if isActive c then .escaped else .plain
    | .single =>
      if c = '\'' then .endQuote else if isActive c || c = '\\' then .escaped else .plain
    | .arithmetic =>
      match c with
      | '\\' => .backslash
      | '\x60' => .backquote
      | '$' => .dollar
      | '\x7d' => .closeBrace
      | '(' => .openParenthesis
      | ')' => .closeParenthesis
      | _ => .plain

end Quoting

structure Level where
  quoting : Quoting := .bare
  /-- Expansions with words that are open. -/
  braces : Nat := 0
  /-- Those of them that were opened between quotes. -/
  quotedBraces : Nat := 0
  parentheses : Nat := 0
  quoted : Bool := false
  /-- There are quotes open in the word of an expansion. -/
  innerQuote : Bool := false
  forBraces : Bool := false
deriving Repr

inductive Opening where
  | parameter (name : String) (use : ParameterUse)
  | arithmetic

def Opening.part (inside : Word) : Opening → Part
  | .parameter name use => .parameter name use inside
  | .arithmetic => .arithmetic inside

/-- What was read of a word. The parts stand in reverse, and those in front of an open expansion wait
with it. -/
structure WordState where
  parts : Word := []
  openings : List (Opening × Word) := []
  level : Level := {}
  outer : List Level := []
  quotes : Bool := false

namespace WordState

def add (word : WordState) (part : Part) : WordState := { word with parts := part :: word.parts }

def enter (word : WordState) (opening : Opening) : WordState :=
  { word with parts := [], openings := (opening, word.parts) :: word.openings }

def leave (word : WordState) : WordState :=
  match word.openings with
  | (opening, before) :: openings =>
    { word with parts := opening.part (gatherParameters false word.parts.reverse) :: before, openings }
  | [] => word

/-- The parts that were read, in order. -/
def finished (word : WordState) : Word := gatherParameters false word.parts.reverse

def push (word : WordState) (level : Level) : WordState :=
  { word with level, outer := word.level :: word.outer }

def pop (word : WordState) : WordState :=
  match word.outer with
  | level :: outer => { word with level, outer }
  | [] => word

/-- Marks a place where quotes open or close. There are no such places in a document. -/
def mark (word : WordState) (document : Bool) : WordState :=
  if document then word else word.add .quoteMark

/-- Notes that quotes in the word of an expansion open or close. -/
def toggle (word : WordState) : WordState :=
  if 0 < word.level.braces then
    { word with level := { word.level with innerQuote := !word.level.innerQuote } }
  else word

def endQuote (word : WordState) (document : Bool) (c : Char) : WordState :=
  if document && word.level.braces = 0 then word.add (.plain c)
  else
    let word : WordState :=
      if word.level.quotedBraces = 0 then
        { word with level := { word.level with quoting := .bare, quoted := false } }
      else word
    let word := { word with quotes := true }
    (if c = '"' then word.toggle else word).mark document

def closeBrace (word : WordState) : WordState :=
  let level := word.level
  if !level.innerQuote && 0 < level.braces then
    let braces := level.braces - 1
    let word := { word with level := { level with braces } }
    let word :=
      if braces = 0 && level.forBraces then word.pop
      else
        { word with
          level := { word.level with quotedBraces := word.level.quotedBraces - 1 } }
    word.leave
  else word.add (.plain '\x7d')

/-- The word behind the start of an expansion with a word of its own. The pattern of a trim has quotes
of its own. -/
def enterBraces (word : WordState) (name : String) (use : ParameterUse) : WordState :=
  let quoting :=
    match use, word.level.quoting with
    | .trim .., _ => .bare
    | _, .arithmetic => .double
    | _, quoting => quoting
  let word :=
    if quoting ≠ word.level.quoting || word.level.innerQuote then
      word.push { quoting, quoted := quoting ≠ .bare, forBraces := true }
    else word
  let level := word.level
  let word := { word with
    level := { level with
      braces := level.braces + 1
      quotedBraces := if level.quoted then level.quotedBraces + 1 else level.quotedBraces } }
  word.enter (.parameter name use)

/-- The word behind a character with a backslash in front. Between double quotes the backslash stays,
unless the character would mean something there. -/
def escape (word : WordState) (document : Bool) (c : Char) : WordState :=
  let level := word.level
  let kept :=
    level.quoted && !(c = '\\' || c = '\x60' || c = '$') &&
      (c ≠ '"' || (document && level.braces = 0)) && (c ≠ '\x7d' || level.braces = 0)
  let word := if kept then word.add (.escaped '\\') else word
  { word.add (.escaped c) with quotes := true }

end WordState

namespace Reader

def backquoted (quoted : Bool) : Reader (List Char) :=
  iterate [] fun text => do
    match ← nextJoined with
    | none => fail "EOF in backquote substitution"
    | some '\x60' => return .inr text.reverse
    | some '\\' =>
      match ← nextChar with
      | none => return .inl ('\\' :: text)
      | some c =>
        let dropped := c = '\\' || c = '\x60' || c = '$' || (quoted && c = '"')
        return .inl (if dropped then c :: text else c :: '\\' :: text)
    | some '\n' =>
      countLine
      return .inl ('\n' :: text)
    | some c => return .inl (c :: text)

/-- Reads the longest text of some characters, the first of which was read. Also gives the character
behind it. -/
def spanFrom (c : Char) (p : Char → Bool) : Reader (String × Option Char) :=
  iterate [c] fun text => do
    match ← nextJoined with
    | some c => return if p c then .inl (c :: text) else .inr (String.ofList text.reverse, some c)
    | none => return .inr (String.ofList text.reverse, none)

def isMark (c : Char) : Bool := "#?$!-*@".toList.contains c

/-- What may follow the name of a parameter in braces. -/
def useOf? (orEmpty : Bool) (c : Option Char) : Option ParameterUse :=
  match c with
  | some '\x7d' => some .value
  | some '-' => some (.orElse orEmpty)
  | some '+' => some (.ifSet orEmpty)
  | some '?' => some (.orFail orEmpty)
  | some '=' => some (.orAssign orEmpty)
  | _ => none

/-- Reads what is done with a parameter in braces, from the character behind its name on. -/
def readUse (c : Option Char) : Reader ParameterUse := do
  match c with
  | some ':' =>
    match useOf? true (← nextJoined) with
    | some .value => return .valueAndWord
    | none => return .wrong
    | some use => return use
  | some '%' | some '#' =>
    let front := c = some '#'
    let next ← nextJoined
    if next = c then return .trim front true
    else
      unread next
      return .trim front false
  | c => return (useOf? false c).getD .wrong

def readParameter (braced : Bool) (c : Option Char) (word : WordState) : Reader WordState := do
  let wrong (name : String) (next : Option Char) : Reader WordState := do
    unread next
    return word.enterBraces name .wrong
  let plain (name : String) (next : Option Char) : Reader WordState := do
    unread next
    return word.add (.parameter name .value [])
  let length (name : String) (next : Option Char) : Reader WordState := do
    if next ≠ some '\x7d' then wrong name next
    else return word.add (.parameter name .length [])
  let used (name : String) (next : Option Char) : Reader WordState := do
    match ← readUse next with
    | .value => return word.add (.parameter name .value [])
    | use => return word.enterBraces name use
  let named (c : Char) : Reader (String × Option Char) := do
    if isNameStart c then spanFrom c isNameChar
    else if braced then spanFrom c Char.isDigit
    else return (String.singleton c, ← nextJoined)
  match c with
  | none => wrong "" none
  | some '\x7d' => wrong "" (some '\x7d')
  | some c =>
    if isNameStart c || c.isDigit then
      let (name, next) ← named c
      if braced then used name next else plain name next
    else
      let next ← nextJoined
      if !braced then plain (String.singleton c) next
      else if c = '#' then
        match next with
        | some d =>
          if isNameChar d then
            let (name, next) ← named d
            length name next
          else
            let behind ← nextJoined
            if d = '\x7d' || behind ≠ some '\x7d' then
              unread behind
              used "#" (some d)
            else if isMark d then length (String.singleton d) behind
            else wrong "" behind
        | none => used "#" none
      else if isMark c then used (String.singleton c) next
      else wrong "" next

def inParentheses (commands : Reader Command) : Reader Command := do
  let pending := (← get).pending
  modify fun state => { state with pending := [] }
  let command ← commands
  modify fun state => { state with pending }
  return command

def inText (commands : Reader Command) (text : List Char) : Reader Command := do
  let state ← get
  set { state with source := { rest := text }, pending := [] }
  let command ← commands
  modify fun after =>
    { after with
      source := state.source
      pending := state.pending
      again := false }
  return command

/-- Reads what stands behind a dollar sign. `parenthesized` reads commands up to the closing
parenthesis. -/
def readDollar (parenthesized : Reader Command) (markOnly : Bool) (word : WordState) :
    Reader WordState := do
  match ← nextJoined with
  | some c =>
    if markOnly || !(c = '(' || c = '\x7b' || isNameChar c || isMark c) then
      unread (some c)
      return word.add (.plain '$')
    else if c = '(' then
      match ← nextJoined with
      | some '(' => return (word.enter .arithmetic).push { quoting := .arithmetic, quoted := true }
      | c =>
        unread c
        return word.add (.output (← inParentheses parenthesized))
    else if c = '\x7b' then readParameter true (← nextJoined) word
    else readParameter false (some c) word
  | none => return word.add (.plain '$')

/-- Whether the text of a document ends at a line, whose first character was read: then there is no
character, else the first one that counts. -/
def endDocument (document : PendingDocument) (c : Option Char) : Reader (Option Char) := do
  let c ←
    if document.stripTabs then
      iterate c fun c => do
        if c = some '\t' then return .inl (← nextChar) else return .inr c
    else pure c
  let compare (mark read : List Char) (c : Option Char) :
      Reader ((List Char × List Char × Option Char) ⊕ (Bool × List Char)) := do
    match mark, c with
    | [], none | [], some '\n' => return .inr (true, [])
    | m :: mark, some d =>
      if m = d then return .inl (mark, d :: read, ← nextChar)
      else return .inr (false, (d :: read).reverse)
    | _, c => return .inr (false, (c.toList ++ read).reverse)
  let (ended, read) ← iterate (document.mark.toList, ([] : List Char), c) fun (mark, read, c) =>
    compare mark read c
  if ended then
    countLine
    return none
  else
    unreadAll (read.drop 1)
    return read.head?

inductive Purpose where
  | command
  | mark
  | document (document : PendingDocument)
  /-- The word is a whole text, as if it stood in a document. -/
  | text

namespace Purpose

def document? : Purpose → Option PendingDocument
  | .document announced => some announced
  | _ => none

/-- Whether the text of a document is read, or one that counts as such. -/
def isDocument (purpose : Purpose) : Bool := purpose.document?.isSome || purpose matches .text

end Purpose

/-- What follows a character of a word: the word with it, or the end. -/
inductive WordStep where
  | more (word : WordState)
  | line (word : WordState)
  | done

def takeChar (parenthesized backquotes : Reader Command) (purpose : Purpose) (c : Char)
    (word : WordState) : Reader WordStep := do
  let level := word.level
  let document := purpose.isDocument
  let markOnly := purpose matches .mark
  match level.quoting.role c with
  | .plain => return .more (word.add (.plain c))
  | .escaped =>
    return .more (word.add (if !document || level.quoted then .escaped c else .plain c))
  | .newline =>
    if level.quoting = .bare && level.braces = 0 then return .done
    countLine
    return .line (word.add (.plain c))
  | .backslash =>
    match ← nextChar with
    | none => return .more (word.add (.escaped '\\'))
    | some '\n' => countLine; return .more word
    | some c => return .more (word.escape document c)
  | .singleQuote =>
    return .more ({ word with level := { level with quoting := .single } }.mark document)
  | .doubleQuote =>
    let word := { word with level := { level with quoting := .double, quoted := true } }
    return .more (word.toggle.mark document)
  | .endQuote => return .more (word.endQuote document c)
  | .dollar => return .more (← readDollar parenthesized markOnly word)
  | .closeBrace => return .more word.closeBrace
  | .openParenthesis =>
    return .more { word.add (.plain c) with
      level := { level with parentheses := level.parentheses + 1 } }
  | .closeParenthesis =>
    if 0 < level.parentheses then
      return .more { word.add (.plain c) with
        level := { level with parentheses := level.parentheses - 1 } }
    else
      match ← nextJoined with
      | some ')' => return .more word.leave.pop
      | next =>
        unread next
        return .more (word.add (.plain c))
  | .backquote =>
    if markOnly then return .more { word.add (.plain c) with quotes := true }
    let text ← backquoted level.quoted
    return .more (word.add (.output (← inText backquotes text)))
  | .delimiter => if level.braces = 0 then return .done else return .more (word.add (.plain c))

/-- Reads a word from its first character on. Gives the word and the character behind it. -/
def readParts (parenthesized backquotes : Reader Command) (purpose : Purpose) (level : Level)
    (first : Option Char) : Reader (WordState × Option Char) := do
  let atLine (c : Option Char) : Reader (Option Char) :=
    match purpose.document? with
    | some document => endDocument document c
    | none => pure c
  let start ← atLine first
  iterate (start, ({ level } : WordState)) fun (c, word) => do
    match c with
    | none => return .inr (word, none)
    | some d =>
      let step ← takeChar parenthesized backquotes purpose d word
      match step with
      | .done => return .inr (word, c)
      | .line word => return .inl (← atLine (← nextChar), word)
      | .more word =>
        let next ← if word.level.quoting = .single then nextChar else nextJoined
        return .inl (next, word)

def checkClosed (word : WordState) (document : Bool) : Reader Unit := do
  if word.level.quoting = .arithmetic then fail "Missing '))'"
  if word.level.quoting ≠ .bare && !document then fail "Unterminated quoted string"
  if word.level.braces ≠ 0 then fail "Missing '\x7d'"

def readRedirection (digit : Option Char) (c : Char) : Reader Announcement := do
  let descriptor (usual : Nat) : Nat := (digit.map fun d => d.toNat - '0'.toNat).getD usual
  if c = '>' then
    match ← nextJoined with
    | some '>' => return .file (descriptor 1) .append
    | some '|' => return .file (descriptor 1) .replace
    | some '&' => return .copy (descriptor 1)
    | next =>
      unread next
      return .file (descriptor 1) .write
  else
    match ← nextJoined with
    | some '<' =>
      match ← nextJoined with
      | some '-' => return .document (descriptor 0) true
      | next =>
        unread next
        return .document (descriptor 0) false
    | some '&' => return .copy (descriptor 0)
    | some '>' => return .file (descriptor 0) .readWrite
    | next =>
      unread next
      return .file (descriptor 0) .read

def readWord (parenthesized backquotes : Reader Command) (mark : Bool) (first : Option Char) :
    Reader Token := do
  let purpose : Purpose := if mark then .mark else .command
  let (word, c) ← readParts parenthesized backquotes purpose {} first
  checkClosed word false
  let parts := word.finished
  let digit? : Option (Option Char) :=
    match parts with
    | [] => some none
    | [.plain d] => if d.isDigit then some (some d) else none
    | _ => none
  match c, if word.quotes then none else digit? with
  | some '<', some digit | some '>', some digit =>
    let announcement ← readRedirection digit (c.getD '<')
    modify fun state => { state with announcement }
    took .redirection
  | c, _ =>
    unread c
    modify fun state => { state with word := parts, quoted := word.quotes }
    took .word

def readDocument (parenthesized backquotes : Reader Command) (document : PendingDocument) :
    Reader Unit := do
  let first ← if document.expanded then nextJoined else nextChar
  let level : Level :=
    if document.expanded then { quoting := .double, quoted := true } else { quoting := .single }
  let (word, _) ← readParts parenthesized backquotes (.document document) level first
  checkClosed word true
  let text : Document := { text := word.finished, expanded := document.expanded }
  modify fun state =>
    { state with
      documents := (document.index, text) :: state.documents
      word := text.text
      quoted := word.quotes }

def readWhole (parenthesized backquotes : Reader Command) : Reader Word := do
  let level : Level := { quoting := .double, quoted := true }
  let (word, _) ← readParts parenthesized backquotes .text level (← nextJoined)
  checkClosed word true
  return word.finished

def readDocuments (parenthesized backquotes : Reader Command) : Reader Unit := do
  let pending := (← get).pending
  modify fun state => { state with pending := [] }
  pending.forM (readDocument parenthesized backquotes)

end Reader

end WidgetPipeline.Shell
